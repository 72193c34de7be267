import TagLint.Proofs.Struct.LineDelta
import TagLint.Proofs.Struct.Source

/-! The characters of printed declarations, and what a scan meets in them. -/
namespace TagLint.Source
open Text Brace

variable {c d : Char} {q : Char → Bool} {s t : Text}

/-- Characters that start or end a literal, a comment or a line. -/
def marks : List Char := [backtick, '"', '\'', '/', '\n']

def isPlain (c : Char) : Bool := !marks.contains c

theorem isPlain_of_class (hq : ∀ d ∈ marks, q d = false) (hc : q c) : isPlain c := by
  cases h : marks.contains c with
  | false => rw [isPlain, h]; rfl
  | true =>
    have := hq c (List.contains_iff_mem.mp h)
    simp_all

theorem isPlain_of_isWord (hc : isWord c) : isPlain c := isPlain_of_class (by decide) hc

theorem isPlain_of_isTypeChar (hc : FieldLine.isTypeChar c) : isPlain c :=
  isPlain_of_class (by decide) hc

theorem isPlain_of_isPathChar (hc : FieldLine.isPathChar c) : isPlain c :=
  isPlain_of_class (by decide) hc

/-! ## Words -/

theorem Indent.isBlank (i : Indent) : ∀ c ∈ i.text, isBlank c := by
  intro c hc
  rcases i.blank c hc with rfl | rfl <;> decide

theorem Indent.isPlain (i : Indent) : ∀ c ∈ i.text, isPlain c := by
  intro c hc
  rcases i.blank c hc with rfl | rfl <;> decide

theorem isTypeChar_isBlank (hc : FieldLine.isTypeChar c) : Text.isBlank c = false := by
  simp only [FieldLine.isTypeChar, Bool.or_eq_true] at hc
  rcases hc with hc | hc
  · exact isBlank_eq_false_of_isWord hc
  · have : ∀ d ∈ "[]*.{}".toList, Text.isBlank d = false := by decide
    exact this c (List.contains_iff_mem.mp hc)

theorem isPathChar_isTypeChar (hc : FieldLine.isPathChar c) : FieldLine.isTypeChar c := by
  simp only [FieldLine.isPathChar, Bool.or_eq_true, beq_iff_eq] at hc
  rcases hc with hc | rfl
  · simp [FieldLine.isTypeChar, hc]
  · decide

/-- The characters between and in the names of a declaration. -/
theorem mem_names {first : Word} {more : List Word} (hc : c ∈ Decl.names first more) :
    isWord c ∨ c = ',' ∨ c = ' ' := by
  simp only [Decl.names] at hc
  induction more generalizing first with
  | nil => exact .inl (first.isWord c (by simpa [join] using hc))
  | cons w more ih =>
    simp only [List.map_cons, join, List.mem_append] at hc
    rcases hc with (hc | hc) | hc
    · exact .inl (first.isWord c hc)
    · right
      simpa using hc
    · exact ih hc

theorem names_eq_append (first : Word) (more : List Word) :
    ∃ r, Decl.names first more = first.text ++ r := by
  cases more with
  | nil => exact ⟨[], by simp [Decl.names, join]⟩
  | cons w more => exact ⟨_, by simp only [Decl.names, List.map_cons, join, List.append_assoc]; rfl⟩

theorem isPlain_names (first : Word) (more : List Word) :
    ∀ c ∈ Decl.names first more, isPlain c := by
  intro c hc
  rcases mem_names hc with hc | rfl | rfl
  · exact isPlain_of_isWord hc
  · decide
  · decide

theorem Shape.isPlain (shape : Shape) : ∀ c ∈ shape.text, isPlain c := by
  cases shape <;> decide

/-! ## Declarations -/

/-- A text that a trim leaves alone and that no literal and no comment starts in. -/
structure Solid (t : Text) : Prop where
  ne_nil : t ≠ []
  head : ∀ c ∈ t.head?, Text.isBlank c = false
  last : ∀ c ∈ t.getLast?, Text.isBlank c = false
  plain : ∀ c ∈ t, isPlain c

theorem Word.head (w : Word) (t : Text) : ∀ c ∈ (w.text ++ t).head?, Text.isBlank c = false :=
  head?_append_of_ne_nil w.ne_nil (fun c hc => isBlank_eq_false_of_isWord (w.isWord c hc)) t

theorem getLast?_append_of_ne_nil (ht : t ≠ []) (hq : ∀ c ∈ t, Text.isBlank c = false) (s : Text) :
    ∀ c ∈ (s ++ t).getLast?, Text.isBlank c = false := by
  intro c hc
  rw [List.getLast?_append, Option.or_of_isSome (by simpa using ht)] at hc
  exact hq c (List.mem_of_getLast? hc)

theorem Decl.solid (d : Decl) : Solid d.text := by
  cases d with
  | named first more pad type =>
    have hblank : ∀ c ∈ type.text, Text.isBlank c = false :=
      fun c hc => isTypeChar_isBlank (type.isTypeChar c hc)
    refine ⟨by simp [Decl.text], ?_, ?_, ?_⟩
    · obtain ⟨r, hr⟩ := names_eq_append first more
      rw [Decl.text, hr, List.append_assoc, List.append_assoc]
      exact first.head _
    · exact getLast?_append_of_ne_nil type.ne_nil hblank _
    · simp only [Decl.text, List.mem_append, List.mem_cons]
      rintro c ((hc | rfl | hc) | hc)
      · exact isPlain_names first more c hc
      · decide
      · exact pad.isPlain c hc
      · exact isPlain_of_isTypeChar (type.isTypeChar c hc)
  | embedded pointer path =>
    have hblank : ∀ c ∈ path.text, Text.isBlank c = false :=
      fun c hc => isTypeChar_isBlank (isPathChar_isTypeChar (path.isPathChar c hc))
    have hstar : ∀ c ∈ star pointer, c = '*' := by cases pointer <;> simp [star]
    refine ⟨by simp [Decl.text, path.ne_nil], ?_, ?_, ?_⟩
    · rw [Decl.text, ← List.append_nil (star pointer ++ path.text)]
      refine head?_append_of_ne_nil (by simp [path.ne_nil]) (P := fun c => Text.isBlank c = false)
        ?_ _
      intro c hc
      rcases List.mem_append.mp hc with hc | hc
      · rw [hstar c hc]; decide
      · exact hblank c hc
    · exact getLast?_append_of_ne_nil path.ne_nil hblank _
    · simp only [Decl.text, List.mem_append]
      rintro c (hc | hc)
      · rw [hstar c hc]; decide
      · exact isPlain_of_isPathChar (path.isPathChar c hc)

theorem balance_take_append (hopen : '{' ∉ s) (hclose : '}' ∉ s) (t : Text) (n : Nat) :
    balance ((s ++ t).take n) = balance (t.take (n - s.length)) := by
  rw [List.take_append, balance_append,
    balance_of_not_mem (fun h => hopen (List.mem_of_mem_take h))
      (fun h => hclose (List.mem_of_mem_take h)), Int.zero_add]

theorem Balanced.balance_take (ht : Balanced t) (n : Nat) : 0 ≤ balance (t.take n) := by
  by_cases hn : n ≤ t.length
  · have := ht.1 n hn
    simp only [balance]
    omega
  · rw [List.take_of_length_le (by omega), balance, ht.2]
    omega

theorem Balanced.balance_eq (ht : Balanced t) : balance t = 0 := by
  rw [balance, ht.2]
  omega

/-- Only the type of a declaration holds braces. -/
theorem Decl.split (d : Decl) :
    ∃ s t : Text, d.text = s ++ t ∧ '{' ∉ s ∧ '}' ∉ s ∧ Balanced t := by
  cases d with
  | named first more pad type =>
    refine ⟨_, type.text, rfl, ?_, ?_, type.balanced⟩ <;>
    · simp only [List.mem_append, List.mem_cons]
      rintro (hc | hc | hc)
      · rcases mem_names hc with hc | hc | hc <;> revert hc <;> decide
      · revert hc; decide
      · rcases pad.blank _ hc with hc | hc <;> revert hc <;> decide
  | embedded pointer path =>
    have hopen : '{' ∉ path.text := not_mem_of_class path.isPathChar (by decide)
    have hclose : '}' ∉ path.text := not_mem_of_class path.isPathChar (by decide)
    refine ⟨star pointer ++ path.text, [], (List.append_nil _).symm, ?_, ?_, by decide⟩ <;>
      cases pointer <;> simp [star, hopen, hclose]

/-- A declaration closes no brace that it has not opened. -/
theorem Decl.balance_take (d : Decl) (n : Nat) : 0 ≤ balance (d.text.take n) := by
  obtain ⟨s, t, hst, hopen, hclose, ht⟩ := d.split
  rw [hst, balance_take_append hopen hclose]
  exact ht.balance_take _

theorem Decl.balance_text (d : Decl) : balance d.text = 0 := by
  obtain ⟨s, t, hst, hopen, hclose, ht⟩ := d.split
  rw [hst, balance_append, balance_of_not_mem hopen hclose, ht.balance_eq]
  rfl

end TagLint.Source
