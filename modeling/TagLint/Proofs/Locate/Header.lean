import TagLint.Locate
import TagLint.Proofs.Text.Search

/-! The header that a struct is located at, and the lines of the body below it. -/
namespace TagLint.Locate
open Text

variable {name cs line t : Text} {previous : Option Char} {ls : List Text} {b : BodyLine}
  {n c number : Nat} {depth : Int}

/-! ## Headers -/

/-- The texts that start with a header for a name, up to its last keyword. -/
inductive Headed (name : Text) : Text → Prop where
  | mk {b₁ b₂ r : Text} (hne₁ : b₁ ≠ []) (hne₂ : b₂ ≠ []) (h₁ : ∀ c ∈ b₁, isBlank c)
      (h₂ : ∀ c ∈ b₂, isBlank c) (hr : ∀ c ∈ r.head?, isWord c = false) :
      Headed name ("type".toList ++ (b₁ ++ (name ++ (b₂ ++ ("struct".toList ++ r)))))

theorem here_iff :
    namedHere.here name cs ↔ ∃ b r, b ≠ [] ∧ (∀ c ∈ b, isBlank c) ∧
    (∀ c ∈ r.head?, isWord c = false)
      ∧ cs = name ++ (b ++ ("struct".toList ++ r)) := by
  constructor
  · intro h
    rw [namedHere.here] at h
    split at h
    · rename_i rest hrest
      obtain ⟨u, hu, hblank⟩ := Option.bind_eq_some_iff.mp hrest
      obtain ⟨b, hne, hb, -, rfl⟩ := afterBlanks?_eq_some_iff.mp hblank
      rw [after?_eq_some_iff] at hu
      split at h
      · rename_i d r hd
        rw [after?_eq_some_iff] at hd
        exact ⟨b, d :: r, hne, hb, by simpa using h, by rw [hu, hd]⟩
      · rename_i hd
        rw [after?_eq_some_iff] at hd
        exact ⟨b, [], hne, hb, by simp, by rw [hu, hd]⟩
      · exact absurd h (by decide)
    · exact absurd h (by decide)
  · rintro ⟨b, r, hne, hb, hr, rfl⟩
    have hhead : ∀ c ∈ ("struct".toList ++ r).head?, isBlank c = false := by simp; decide
    rw [namedHere.here, after?_append, Option.bind_some, afterBlanks?_append hne hb hhead]
    simp only [after?_append]
    cases r with
    | nil => rfl
    | cons d r => simpa using hr

theorem namedHere_iff :
    namedHere name cs ↔ ∃ b r, b ≠ [] ∧ (∀ c ∈ b, isBlank c) ∧ namedHere.here name r ∧
    cs = b ++ r := by
  induction cs with
  | nil =>
    simp only [namedHere, Bool.false_eq_true, false_iff]
    rintro ⟨b, r, hne, -, -, heq⟩
    exact hne (List.append_eq_nil_iff.mp heq.symm).1
  | cons c cs ih =>
    simp only [namedHere, Bool.and_eq_true, Bool.or_eq_true, ih]
    constructor
    · rintro ⟨hc, hhere | ⟨b, r, -, hb, hhere, rfl⟩⟩
      · exact ⟨[c], cs, by simp, by simpa using hc, hhere, rfl⟩
      · exact ⟨c :: b, r, by simp, by simpa using ⟨hc, hb⟩, hhere, rfl⟩
    · rintro ⟨b, r, hne, hb, hhere, heq⟩
      obtain ⟨d, b, rfl⟩ := List.exists_cons_of_ne_nil hne
      obtain ⟨rfl, rfl⟩ := List.cons.inj heq
      obtain ⟨hc, hb⟩ := List.forall_mem_cons.mp hb
      refine ⟨hc, ?_⟩
      cases b with
      | nil => exact .inl hhere
      | cons d b => exact .inr ⟨d :: b, r, by simp, hb, hhere, rfl⟩

theorem headed_iff : ((after? "type" cs).map (namedHere name)).getD false ↔ Headed name cs := by
  constructor
  · intro h
    cases hrest : after? "type" cs with
    | none =>
      rw [hrest] at h
      exact absurd h Bool.false_ne_true
    | some rest =>
      rw [hrest, Option.map_some, Option.getD_some] at h
      obtain ⟨b₁, u, hne₁, h₁, hhere, rfl⟩ := namedHere_iff.mp h
      obtain ⟨b₂, r, hne₂, h₂, hr, rfl⟩ := here_iff.mp hhere
      rw [after?_eq_some_iff] at hrest
      rw [hrest]
      exact .mk hne₁ hne₂ h₁ h₂ hr
  · rintro ⟨hne₁, hne₂, h₁, h₂, hr⟩
    rw [after?_append, Option.map_some, Option.getD_some]
    exact namedHere_iff.mpr ⟨_, _, hne₁, h₁, here_iff.mpr ⟨_, _, hne₂, h₂, hr, rfl⟩, rfl⟩

theorem headed_of_headerColumn? (h : headerColumn? name previous line = some n) :
    Headed name (line.drop n) := by
  induction line generalizing previous n with
  | nil => simp [headerColumn?] at h
  | cons c line ih =>
    rw [headerColumn?] at h
    split at h
    · rename_i hhere
      obtain rfl : 0 = n := by simpa using h
      exact headed_iff.mp (Bool.and_eq_true_iff.mp hhere).2
    · obtain ⟨k, hk, rfl⟩ := Option.map_eq_some_iff.mp h
      exact ih hk

theorem Headed.exists_isPrefix (h : Headed name cs) : ∃ k, 4 ≤ k ∧ name <+: cs.drop k := by
  obtain ⟨hne₁, hne₂, h₁, h₂, hr⟩ := h
  rename_i b₁ b₂ r
  refine ⟨4 + b₁.length, by omega, ?_⟩
  have htype : "type".toList.length = 4 := rfl
  rw [← List.drop_drop, ← htype, List.drop_left, List.drop_left]
  exact List.prefix_append _ _

/-- The located column is one where the name stands. -/
theorem prefix_of_structLine? (hne : name ≠ []) (h : structLine? name ls = some (n, c)) :
    ∃ line, ls[n]? = some line ∧ name <+: line.drop c := by
  induction ls generalizing n with
  | nil => simp [structLine?] at h
  | cons l ls ih =>
    rw [structLine?] at h
    split at h
    · rename_i k hk
      obtain ⟨rfl, rfl⟩ : 0 = n ∧ _ = c := by simpa using h
      obtain ⟨j, hj, hname⟩ := (headed_of_headerColumn? hk).exists_isPrefix
      rw [List.drop_drop] at hname
      have hbehind : k + 4 ≤ k + j := by omega
      obtain ⟨i, hi, -, -⟩ := exists_findFrom?_le hne hbehind hname
      refine ⟨l, rfl, ?_⟩
      rw [hi, Option.getD_some]
      exact (prefix_of_findFrom? hi).2
    · obtain ⟨⟨m, d⟩, hm, heq⟩ := Option.map_eq_some_iff.mp h
      obtain ⟨rfl, rfl⟩ : m + 1 = n ∧ d = c := by simpa using heq
      simpa using ih hm

/-! ## Body lines -/

/-- Where a body line stands: behind the first brace of the header line, or on a whole line
below. -/
inductive BodyLine.LiesIn (b : BodyLine) (ls : List Text) (header : Nat) : Prop where
  | rest {a : Text} (hnumber : b.number = header) (hoffset : b.offset = a.length + 1)
      (hline : ls[b.number]? = some (a ++ '{' :: b.segment)) (hbrace : '{' ∉ a)
  | below (hnumber : header < b.number) (hoffset : b.offset = 0)
      (hline : ls[b.number]? = some b.segment)

theorem BodyLine.LiesIn.exists_line {header : Nat} (h : b.LiesIn ls header) :
    ∃ line, ls[b.number]? = some line ∧ line.drop b.offset = b.segment := by
  cases h with
  | rest hnumber hoffset hline hbrace =>
    refine ⟨_, hline, ?_⟩
    rw [hoffset, List.append_cons]
    exact List.drop_left' (by simp)
  | below hnumber hoffset hline => exact ⟨_, hline, by rw [hoffset]; rfl⟩

theorem number_of_mem_bodyLinesFrom (hb : b ∈ bodyLinesFrom number depth ls) :
    number ≤ b.number ∧ b.offset = 0 ∧ ls[b.number - number]? = some b.segment := by
  induction ls generalizing number depth with
  | nil => simp [bodyLinesFrom] at hb
  | cons l ls ih =>
    rw [bodyLinesFrom] at hb
    split at hb
    · simp at hb
    · rcases List.mem_cons.mp hb with rfl | hb
      · simp
      · obtain ⟨hle, hoffset, hget⟩ := ih hb
        refine ⟨by omega, hoffset, ?_⟩
        have hsucc : b.number - number = b.number - (number + 1) + 1 := by omega
        rw [hsucc, List.getElem?_cons_succ]
        exact hget

theorem liesIn_of_mem_bodyLines (hb : b ∈ bodyLines number (ls.drop number)) :
    b.LiesIn ls number := by
  cases hls : ls.drop number with
  | nil => simp [hls, bodyLines] at hb
  | cons header rest =>
    have hget : ∀ k, ls[number + k]? = (header :: rest)[k]? := by
      intro k
      rw [← hls, List.getElem?_drop]
    rw [hls, bodyLines] at hb
    split at hb
    · simp at hb
    · rename_i brace hbrace
      obtain ⟨hlt, hchar, hbefore⟩ := List.findIdx?_eq_some_iff_getElem.mp hbrace
      rcases List.mem_cons.mp hb with rfl | hb
      · have hchar : header[brace] = '{' := by simpa using hchar
        refine .rest (a := header.take brace) rfl ?_ ?_ ?_
        · rw [List.length_take_of_le (Nat.le_of_lt hlt)]
        · rw [← hchar, List.getElem_cons_drop, List.take_append_drop]
          exact hget 0
        · intro hmem
          obtain ⟨j, hj, hjc⟩ := List.mem_take_iff_getElem.mp hmem
          have := hbefore j (by omega)
          simp [hjc] at this
      · obtain ⟨hle, hoffset, hline⟩ := number_of_mem_bodyLinesFrom hb
        refine .below (by omega) hoffset ?_
        have hsucc : b.number = number + (b.number - (number + 1) + 1) := by omega
        rw [hsucc, hget, List.getElem?_cons_succ]
        exact hline

/-! ## The line of a field -/

/-- The first line of a body, in the order of the search, that starts with a field name. -/
def fieldLine? (field : Text) (body : List BodyLine) : Option BodyLine :=
  (searchOrder body).find? fun b => field.isPrefixOf (trim b.segment)

theorem range_of_structLine? {field : Text} (ht : t ≠ []) (hname : name ≠ []) (hfield : field ≠ [])
    (h : structLine? name (lines t) = some (number, c)) (key : Option Text) :
    range t name field key
      = match fieldLine? field (bodyLines number ((lines t).drop number)) with
        | some b => onFieldLine b ((lines t).getD b.number []) field key
        | none => .onLine number c name.length := by
  rw [range, if_neg (not_or.mpr ⟨ht, hname⟩)]
  simp only [h, if_neg hfield]
  rfl

end TagLint.Locate
