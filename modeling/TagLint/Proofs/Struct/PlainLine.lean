import TagLint.Proofs.Struct.BraceAutomaton
import TagLint.Proofs.Struct.LineDelta
import TagLint.Proofs.Text.LineEnds
import TagLint.Proofs.Text.Pieces

/-! Plain lines: the count of a line and the automaton come to the same depth. -/
namespace TagLint.Brace
open Text

variable {a b l r t : Text} {c q : Char} {m : Mode} {d : Int}

/-! ## The count of a line, piece by piece -/

/-- Braces, backticks and slashes, which the count of a line sees everywhere. -/
def isSeen (c : Char) : Bool := c == '{' || c == '}' || c == backtick || c == '/'

theorem find?_comment_append_of_not_mem (ha : '/' ∉ a) (t : Text) :
    find? "//" (a ++ t) = (find? "//" t).map (· + a.length) := by
  induction a with
  | nil => simp
  | cons c a ih =>
    obtain ⟨hc, ha⟩ := List.ne_and_not_mem_of_not_mem_cons ha
    have hp : ¬ "//".toList <+: c :: (a ++ t) := fun ⟨r, hr⟩ => hc (List.cons.inj hr).1
    rw [List.cons_append, find?_cons_of_not_start hp, ih ha]
    simp [Function.comp_def, Nat.add_assoc]

theorem before_comment_append_of_not_mem (ha : '/' ∉ a) (t : Text) :
    before "//" (a ++ t) = a ++ before "//" t := by
  rw [before, find?_comment_append_of_not_mem ha, before]
  cases find? "//" t with
  | none => rfl
  | some i => simp [Nat.add_comm i, List.take_length_add_append]

/-- A slash that another one does not follow starts no comment. -/
theorem before_comment_slash (ht : t.head? ≠ some '/') :
    before "//" ('/' :: t) = '/' :: before "//" t := by
  have hp : ¬ "//".toList <+: '/' :: t := by
    rintro ⟨r, hr⟩
    obtain ⟨-, rfl⟩ := List.cons.inj hr
    exact ht rfl
  rw [before, find?_cons_of_not_start hp, before]
  cases find? "//" t with
  | none => rfl
  | some i => rfl

theorem head?_withoutRaw (ht : t.head? ≠ some backtick) : (withoutRaw t).head? = t.head? := by
  cases t with
  | nil => rw [withoutRaw]
  | cons c t =>
    have hc : c ≠ backtick := by simpa using ht
    rw [withoutRaw_cons hc]
    rfl

theorem delta_append_of_not_mem (hback : backtick ∉ a) (hslash : '/' ∉ a) (t : Text) :
    delta (a ++ t) = balance a + delta t := by
  rw [delta_eq_balance, withoutRaw_append hback, before_comment_append_of_not_mem hslash,
    balance_append, delta_eq_balance]

theorem delta_slash (hslash : t.head? ≠ some '/') (hback : t.head? ≠ some backtick) :
    delta ('/' :: t) = delta t := by
  have hne : '/' ≠ backtick := by decide
  rw [delta_eq_balance, withoutRaw_cons hne, before_comment_slash (by rwa [head?_withoutRaw hback]),
    ← List.singleton_append, balance_append, delta_eq_balance]
  exact Int.zero_add _

theorem delta_raw (hr : backtick ∉ r) (t : Text) :
    delta (backtick :: (r ++ backtick :: t)) = delta t := by
  rw [delta_eq_balance, ← List.cons_append, withoutRaw_raw hr, delta_eq_balance]

@[simp] theorem delta_nil : delta [] = 0 := by
  rw [delta_eq_balance, withoutRaw]
  rfl

theorem delta_comment (t : Text) : delta ('/' :: '/' :: t) = 0 := by
  have hne : '/' ≠ backtick := by decide
  rw [delta_eq_balance, withoutRaw_cons hne, withoutRaw_cons hne]
  rfl

theorem not_mem_of_unseen (ha : ∀ c ∈ a, isSeen c = false) :
    '{' ∉ a ∧ '}' ∉ a ∧ backtick ∉ a ∧ '/' ∉ a := by
  refine ⟨?_, ?_, ?_, ?_⟩ <;>
  · intro hm
    exact absurd (ha _ hm) (by decide)

/-- Text that a count does not see. -/
theorem delta_append_of_unseen (ha : ∀ c ∈ a, isSeen c = false) (t : Text) :
    delta (a ++ t) = delta t := by
  obtain ⟨hopen, hclose, hback, hslash⟩ := not_mem_of_unseen ha
  rw [delta_append_of_not_mem hback hslash, balance_of_not_mem hopen hclose, Int.zero_add]

theorem delta_blockComment (hr : ∀ c ∈ r, isSeen c = false)
    (ht : ∀ c ∈ t.head?, c ∉ ['/', backtick]) :
    delta (['/', '*'] ++ (r ++ ['*', '/']) ++ t) = delta t := by
  have hinside : ∀ c ∈ '*' :: (r ++ ['*']), isSeen c = false := by
    simpa [or_imp, forall_and, isSeen, backtick] using hr
  have hback : '*' ≠ backtick := by decide
  simp only [List.mem_cons, List.not_mem_nil, or_false, not_or] at ht
  calc delta (['/', '*'] ++ (r ++ ['*', '/']) ++ t)
      = delta ('/' :: ('*' :: (r ++ ['*']) ++ '/' :: t)) := by simp
    _ = delta ('*' :: (r ++ ['*']) ++ '/' :: t) := delta_slash (by simp) (by simp [hback])
    _ = delta ('/' :: t) := delta_append_of_unseen hinside _
    _ = delta t := delta_slash (fun h => (ht _ h).1 rfl) (fun h => (ht _ h).2 rfl)

/-- A blank at the end of a line does not count. -/
theorem delta_concat_of_unseen (hc : isSeen c = false) (t : Text) : delta (t ++ [c]) = delta t := by
  have hone : ∀ x ∈ [c], isSeen x = false := by simpa using hc
  obtain ⟨hopen, hclose, hback, hslash⟩ := not_mem_of_unseen hone
  have hcomment : c ∉ "//".toList := by
    have : '/' ≠ c := by simpa using hslash
    simp [Ne.symm this]
  rw [delta_eq_balance, delta_eq_balance, withoutRaw_concat (by simpa [eq_comm] using hback)]
  rcases before_concat (by decide) hcomment (withoutRaw t) with hcode | hcode
  · rw [hcode]
  · rw [hcode, balance_append, balance_of_not_mem hopen hclose, Int.add_zero]

theorem isSeen_eq_false_of_isBlank (h : isBlank c) : isSeen c = false := by
  cases hc : isSeen c with
  | false => rfl
  | true =>
    simp only [isSeen, Bool.or_eq_true, beq_iff_eq] at hc
    rcases hc with ((rfl | rfl) | rfl) | rfl <;> exact absurd h (by decide)

theorem delta_append_of_blank (hb : ∀ c ∈ b, isBlank c) (t : Text) : delta (t ++ b) = delta t := by
  induction b generalizing t with
  | nil => rw [List.append_nil]
  | cons c b ih =>
    obtain ⟨hc, hb⟩ := List.forall_mem_cons.mp hb
    rw [List.append_cons, ih hb, delta_concat_of_unseen (isSeen_eq_false_of_isBlank hc)]

theorem delta_trim (t : Text) : delta (trim t) = delta t := by
  obtain ⟨a, b, ha, hb, ht⟩ := exists_eq_append_trim t
  have hline :=
    delta_append_of_unseen (fun c hc => isSeen_eq_false_of_isBlank (ha c hc)) (trim t ++ b)
  rw [← ht, delta_append_of_blank hb] at hline
  exact hline.symm

/-! ## Reading -/

/-- The rest of a quoted literal, with its closing quote. No character of it is seen by the count of
a line. -/
inductive Literal (q : Char) : Text → Prop
  | close : Literal q [q]
  | char {c : Char} {t : Text} (hc : isSeen c = false) (hq : c ≠ q) (hb : c ≠ '\\')
    (h : Literal q t) :
      Literal q (c :: t)
  | escape {c : Char} {t : Text} (hc : isSeen c = false) (h : Literal q t) :
    Literal q ('\\' :: c :: t)

theorem Literal.unseen (hq : q = '"' ∨ q = '\'') (h : Literal q l) :
    ∀ c ∈ q :: l, isSeen c = false := by
  have hquote : isSeen q = false := by
    rcases hq with rfl | rfl <;> decide
  refine List.forall_mem_cons.mpr ⟨hquote, ?_⟩
  induction h with
  | close => simpa using hquote
  | char hc _ _ _ ih => exact List.forall_mem_cons.mpr ⟨hc, ih⟩
  | escape hc _ ih =>
    exact List.forall_mem_cons.mpr ⟨by decide, List.forall_mem_cons.mpr ⟨hc, ih⟩⟩

namespace Reader

theorem step_of_not_code (hm : m.isCode = false) (d : Int) (c : Char) :
    step ⟨m, d⟩ c = ⟨m.next c, d⟩ := by
  simp [step, hm]

/-- Outside of code nothing counts until the mode changes. -/
theorem read_of_next (hm : m.isCode = false) (ht : ∀ c ∈ t, m.next c = m) :
    read ⟨m, d⟩ t = ⟨m, d⟩ := by
  induction t with
  | nil => rfl
  | cons c t ih =>
    obtain ⟨hc, ht⟩ := List.forall_mem_cons.mp ht
    rw [read_cons, step_of_not_code hm, hc]
    exact ih ht

theorem step_code (hc : c ∉ ['/', backtick, '"', '\'']) (d : Int) :
    step ⟨.code, d⟩ c = ⟨.code, d + balance [c]⟩ := by
  have hnext : Mode.next .code c = .code := by
    simp only [List.mem_cons, List.not_mem_nil, or_false, not_or] at hc
    simp [Mode.next, Mode.afterCode, hc]
  by_cases hopen : c = '{'
  · subst hopen
    rfl
  · by_cases hclose : c = '}'
    · subst hclose
      rfl
    · simp [step, hnext, hopen, hclose, balance]

/-- A slash that starts no comment is like any other character of code. -/
theorem step_slash (h₁ : c ≠ '/') (h₂ : c ≠ '*') : step ⟨.slash, d⟩ c = step ⟨.code, d⟩ c := by
  simp [step, Mode.isCode, Mode.next, h₁, h₂]

theorem read_lineComment (ht : '\n' ∉ t) (d : Int) :
    read ⟨.code, d⟩ ('/' :: '/' :: t) = ⟨.line, d⟩ := by
  have hopen : read ⟨.code, d⟩ ('/' :: '/' :: t) = read ⟨.line, d⟩ t := rfl
  rw [hopen]
  apply read_of_next rfl
  intro c hc
  apply if_neg
  rintro rfl
  exact ht hc

theorem read_rawString (hr : backtick ∉ r) (d : Int) :
    read ⟨.code, d⟩ ([backtick] ++ r ++ [backtick]) = ⟨.code, d⟩ := by
  have hopen : read ⟨.code, d⟩ [backtick] = ⟨.raw, d⟩ := rfl
  have hinside : read ⟨.raw, d⟩ r = ⟨.raw, d⟩ := by
    apply read_of_next rfl
    intro c hc
    apply if_neg
    rintro rfl
    exact hr hc
  rw [read_append, read_append, hopen, hinside]
  rfl

theorem read_literal (hq : q = '"' ∨ q = '\'') (h : Literal q l) (hl : '\n' ∉ l) (d : Int) :
    read ⟨.quoted q, d⟩ l = ⟨.code, d⟩ := by
  induction h with
  | close =>
    have hne : q ≠ '\\' := by rcases hq with rfl | rfl <;> decide
    rw [read_cons, step_of_not_code rfl, Mode.next, if_neg hne, if_pos (.inl rfl)]
    rfl
  | char hc hne hback _ ih =>
    obtain ⟨hline, hl⟩ := List.ne_and_not_mem_of_not_mem_cons hl
    rw [read_cons, step_of_not_code rfl, Mode.next, if_neg hback,
      if_neg (by simp [hne, Ne.symm hline]), ih hl]
  | escape hc _ ih =>
    have hl := (List.ne_and_not_mem_of_not_mem_cons (List.ne_and_not_mem_of_not_mem_cons hl).2).2
    rw [read_cons, step_of_not_code rfl, Mode.next, if_pos rfl, read_cons, step_of_not_code rfl,
      Mode.next, ih hl]

/-- A block comment without slashes ends at its first slash behind a star. -/
theorem read_blockComment (hr : '/' ∉ r) (d : Int) :
    read ⟨.code, d⟩ (['/', '*'] ++ (r ++ ['*', '/'])) = ⟨.code, d⟩ := by
  have hinside : ∀ m, m = .block ∨ m = .star → read ⟨m, d⟩ (r ++ ['*', '/']) = ⟨.code, d⟩ := by
    induction r with
    | nil =>
      intro m hm
      rcases hm with rfl | rfl <;> rfl
    | cons c r ih =>
      obtain ⟨hc, hr⟩ := List.ne_and_not_mem_of_not_mem_cons hr
      intro m hm
      have hcode : m.isCode = false := by rcases hm with rfl | rfl <;> rfl
      have hnext : m.next c = .block ∨ m.next c = .star := by
        rcases hm with rfl | rfl <;> by_cases hstar : c = '*'
          <;> simp [Mode.next, hstar, Ne.symm hc]
      rw [List.cons_append, read_cons, step_of_not_code hcode]
      exact ih hr _ hnext
  exact hinside .block (.inl rfl)

end Reader

/-- Lines on which a quoted literal, a raw string or a block comment ends where it began, and no
literal or block comment holds what the count of the line sees. -/
inductive Plain : Text → Prop
  | nil : Plain []
  | comment (t : Text) : Plain ('/' :: '/' :: t)
  | code {c : Char} {t : Text} (hc : c ∉ ['/', backtick, '"', '\'']) (h : Plain t) : Plain (c :: t)
  | slash {t : Text} (ht : ∀ c ∈ t.head?, c ∉ ['/', backtick, '*']) (h : Plain t) : Plain ('/' :: t)
  | raw {r t : Text} (hr : backtick ∉ r) (h : Plain t) : Plain ([backtick] ++ r ++ [backtick] ++ t)
  | quoted {q : Char} {l t : Text} (hq : q = '"' ∨ q = '\'') (hl : Literal q l) (h : Plain t) :
      Plain (q :: l ++ t)
  | block {r t : Text} (hr : ∀ c ∈ r, isSeen c = false) (ht : ∀ c ∈ t.head?, c ∉ ['/', backtick])
      (h : Plain t) : Plain (['/', '*'] ++ (r ++ ['*', '/']) ++ t)

/-- The automaton goes through a plain line from code to code, and counts what the count of the line
says. -/
theorem Plain.read (h : Plain t) (ht : '\n' ∉ t) (d : Int) :
    ∃ m, Reader.read ⟨.code, d⟩ t = ⟨m, d + delta t⟩ ∧ m.next '\n' = .code := by
  induction h generalizing d with
  | nil => exact ⟨.code, by simp, rfl⟩
  | comment t =>
    refine ⟨.line, ?_, rfl⟩
    rw [Reader.read_lineComment (by simp_all), delta_comment, Int.add_zero]
  | @code c t hc _ ih =>
    obtain ⟨m, hread, hm⟩ := ih (by simp_all) (d + balance [c])
    have hdelta : delta (c :: t) = balance [c] + delta t :=
      delta_append_of_not_mem (a := [c]) (by simp_all [eq_comm]) (by simp_all [eq_comm]) t
    refine ⟨m, ?_, hm⟩
    rw [Reader.read_cons, Reader.step_code hc, hread, hdelta, Int.add_assoc]
  | @slash t hhead _ ih =>
    cases t with
    | nil =>
      refine ⟨.slash, ?_, rfl⟩
      rw [delta_slash (by simp) (by simp), delta_nil, Int.add_zero]
      rfl
    | cons c t =>
      obtain ⟨hslash, hback, hstar⟩ : c ≠ '/' ∧ c ≠ backtick ∧ c ≠ '*' := by simpa using hhead
      obtain ⟨m, hread, hm⟩ := ih (by simp_all) d
      refine ⟨m, ?_, hm⟩
      rw [Reader.read_cons, ← Reader.step_slash hslash hstar] at hread
      rw [delta_slash (by simp [hslash]) (by simp [hback]), ← hread]
      rfl
  | @raw r t hr _ ih =>
    obtain ⟨m, hread, hm⟩ := ih (by simp_all) d
    refine ⟨m, ?_, hm⟩
    rw [Reader.read_append, Reader.read_rawString hr, hread, List.append_assoc, List.append_assoc]
    exact congrArg (fun n => Reader.mk m (d + n)) (delta_raw hr t).symm
  | @quoted q l t hq hl _ ih =>
    obtain ⟨m, hread, hm⟩ := ih (by simp_all) d
    have hopen : Reader.step ⟨.code, d⟩ q = ⟨.quoted q, d⟩ := by
      rcases hq with rfl | rfl <;> rfl
    refine ⟨m, ?_, hm⟩
    rw [delta_append_of_unseen (hl.unseen hq), Reader.read_append, Reader.read_cons, hopen,
      Reader.read_literal hq hl (by simp_all), hread]
  | @block r t hr hhead _ ih =>
    obtain ⟨m, hread, hm⟩ := ih (by simp_all) d
    refine ⟨m, ?_, hm⟩
    rw [delta_blockComment hr hhead, Reader.read_append,
      Reader.read_blockComment (not_mem_of_unseen hr).2.2.2, hread]

end TagLint.Brace
