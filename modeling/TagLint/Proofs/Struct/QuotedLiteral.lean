import TagLint.Proofs.Struct.BraceScan
import TagLint.Proofs.Text.Search

/-! Quoted literals: where one ends, and what the search for a closing brace skips with it. -/
namespace TagLint.Brace
open Text

variable {t cs : Text} {c q : Char} {m : Mode} {d i n p start : Nat}

/-! ## Escapes -/

/-- How many backslashes a text ends in. -/
def backslashes (t : Text) : Nat := (t.reverse.takeWhile (· == '\\')).length

/-- A backslash takes the character behind it, another backslash too: what stands behind an odd
number is taken. -/
def Escaped (t : Text) (i : Nat) : Prop := backslashes (t.take i) % 2 = 1

instance (t : Text) (i : Nat) : Decidable (Escaped t i) := inferInstanceAs (Decidable (_ = _))

theorem backslashes_le (t : Text) : backslashes t ≤ t.length := by
  have := (List.takeWhile_prefix (· == '\\') (l := t.reverse)).length_le
  rwa [List.length_reverse] at this

/-- Only another character ends a row of backslashes. -/
theorem backslashes_append (hc : c ≠ '\\') (a t : Text) :
    backslashes (a ++ c :: t) = backslashes t := by
  have hstop : (c :: a.reverse).takeWhile (· == '\\') = [] := by simp [hc]
  rw [backslashes, List.reverse_append, List.reverse_cons, List.append_assoc, List.singleton_append,
    List.takeWhile_append, hstop, List.append_nil, backslashes]
  split
  · rename_i hall
    exact hall.symm
  · rfl

theorem backslashes_cons (t : Text) :
    backslashes ('\\' :: t) = if backslashes t = t.length then t.length + 1 else backslashes t := by
  rw [backslashes, List.reverse_cons, List.takeWhile_append, List.length_reverse, ← backslashes]
  split
  · simp
  · rfl

theorem backslashes_pair (c : Char) (t : Text) :
    backslashes ('\\' :: c :: t) % 2 = backslashes t % 2 := by
  have hle := backslashes_le t
  by_cases hc : c = '\\'
  · subst hc
    rw [backslashes_cons, backslashes_cons, List.length_cons]
    by_cases hall : backslashes t = t.length
    · rw [if_pos hall, if_pos rfl, hall, Nat.add_assoc, Nat.add_mod_right]
    · rw [if_neg hall, if_neg (by omega)]
  · have hrest : backslashes (c :: t) = backslashes t := backslashes_append hc [] t
    rw [backslashes_cons, hrest, List.length_cons, if_neg (by omega)]

theorem not_escaped_zero (t : Text) : ¬ Escaped t 0 := by simp [Escaped, backslashes]

theorem escaped_one (t : Text) : Escaped ('\\' :: t) 1 := by simp [Escaped, backslashes]

theorem escaped_pair : Escaped ('\\' :: c :: t) (i + 2) ↔ Escaped t i := by
  rw [Escaped, List.take_succ_cons, List.take_succ_cons, backslashes_pair, Escaped]

theorem escaped_append (hc : c ≠ '\\') (a : Text) : Escaped (a ++ c :: t) (a.length + 1 + i) ↔
    Escaped t i := by
  have htake : (a ++ c :: t).take (a.length + 1 + i) = a ++ c :: t.take i := by
    rw [List.take_append, List.take_of_length_le (by omega), Nat.add_assoc, Nat.add_sub_cancel_left,
      Nat.add_comm 1, List.take_succ_cons]
  rw [Escaped, htake, backslashes_append hc, Escaped]

theorem escaped_cons (hc : c ≠ '\\') : Escaped (c :: t) (i + 1) ↔ Escaped t i := by
  have h := escaped_append (t := t) (i := i) hc []
  rwa [List.length_nil, Nat.zero_add, Nat.add_comm] at h

/-! ## The end of a literal -/

/-- A quote of its kind or a newline ends a literal, unless a backslash takes it. -/
def Stops (q : Char) (t : Text) (i : Nat) : Prop :=
  (t[i]? = some q ∨ t[i]? = some '\n') ∧ ¬ Escaped t i

theorem stops_cons (hc : c ≠ '\\') : Stops q (c :: t) (i + 1) ↔ Stops q t i := by
  rw [Stops, Stops, List.getElem?_cons_succ, escaped_cons hc]

theorem stops_pair : Stops q ('\\' :: c :: t) (i + 2) ↔ Stops q t i := by
  rw [Stops, Stops, List.getElem?_cons_succ, List.getElem?_cons_succ, escaped_pair]

theorem stops_zero : Stops q (c :: t) 0 ↔ c = q ∨ c = '\n' := by
  simp [Stops, not_escaped_zero]

theorem not_stops_backslash (hq : q ≠ '\\') (t : Text) : ¬ Stops q ('\\' :: t) 0 := by
  rw [stops_zero]
  rintro (h | h)
  · exact hq h.symm
  · exact absurd h (by decide)

theorem not_stops_one (q : Char) (t : Text) : ¬ Stops q ('\\' :: t) 1 :=
  fun h => h.2 (escaped_one t)

theorem ne_backslash_of_cases (hlast : c = '\\' → cs = [] → False)
    (hpair : ∀ d r, c = '\\' → cs = d :: r → False) :
    c ≠ '\\' := by
  intro hc
  cases cs with
  | nil => exact hlast hc rfl
  | cons d r => exact hpair d r hc rfl

/-- A literal does not go on behind where it can stop. -/
theorem quotedSpan_le (hq : q ≠ '\\') (h : Stops q cs i) : quotedSpan q cs ≤ i + 1 := by
  -- A backslash and what it takes move all places by two, another character by one.
  fun_induction quotedSpan q cs generalizing i with
  | case1 => omega
  | case2 =>
    cases i with
    | zero => exact absurd h (not_stops_backslash hq [])
    | succ i => omega
  | case3 c cs ih =>
    cases i with
    | zero => exact absurd h (not_stops_backslash hq _)
    | succ i =>
      cases i with
      | zero => exact absurd h (not_stops_one q _)
      | succ i =>
        have := ih (stops_pair.mp h)
        omega
  | case4 c cs hlast hpair hc => omega
  | case5 c cs hlast hpair hc ih =>
    cases i with
    | zero => exact absurd (stops_zero.mp h) hc
    | succ i =>
      have := ih ((stops_cons (ne_backslash_of_cases hlast hpair)).mp h)
      omega

/-- It goes on as long as it cannot stop. -/
theorem lt_quotedSpan (hi : i < cs.length) (h : ∀ j < i, ¬ Stops q cs j) : i < quotedSpan q cs := by
  fun_induction quotedSpan q cs generalizing i with
  | case1 => exact absurd hi (Nat.not_lt_zero i)
  | case2 =>
    rw [List.length_singleton] at hi
    omega
  | case3 c cs ih =>
    by_cases hpair : i < 2
    · omega
    · obtain ⟨k, rfl⟩ := Nat.exists_eq_add_of_le' (Nat.le_of_not_lt hpair)
      have := ih (by simpa using hi) fun j hj hstop => h (j + 2) (by omega) (stops_pair.mpr hstop)
      omega
  | case4 c cs hlast hpair hc =>
    cases i with
    | zero => omega
    | succ i => exact absurd (stops_zero.mpr hc) (h 0 (by omega))
  | case5 c cs hlast hpair hc ih =>
    cases i with
    | zero => omega
    | succ i =>
      have hne := ne_backslash_of_cases hlast hpair
      have := ih (by simpa using hi) fun j hj hstop =>
        h (j + 1) (by omega) ((stops_cons hne).mpr hstop)
      omega

/-- Only a backslash at the end of the text is taken for more than it is. -/
theorem quotedSpan_le_length (q : Char) (h : cs.getLast? ≠ some '\\') :
    quotedSpan q cs ≤ cs.length := by
  fun_induction quotedSpan q cs with
  | case1 => exact Nat.le_refl 0
  | case2 => exact absurd rfl h
  | case3 c cs ih =>
    cases cs with
    | nil => exact Nat.le_refl 2
    | cons d cs =>
      have := ih (by simpa using h)
      simp only [List.length_cons] at this ⊢
      omega
  | case4 c cs hlast hpair hc => simp
  | case5 c cs hlast hpair hc ih =>
    cases cs with
    | nil => exact Nat.le_refl 1
    | cons d cs =>
      have := ih (by simpa using h)
      simp only [List.length_cons] at this ⊢
      omega

/-! ## Literals of a text -/

/-- The index just past the quoted literal that starts at `p`. -/
def literalEnd (t : Text) (p : Nat) : Nat :=
  match t.drop p with
  | [] => p
  | q :: cs => p + 1 + quotedSpan q cs

theorem drop_eq_cons (hp : t[p]? = some q) : t.drop p = q :: t.drop (p + 1) := by
  obtain ⟨hlt, rfl⟩ := List.getElem?_eq_some_iff.mp hp
  exact List.drop_eq_getElem_cons hlt

theorem literalEnd_eq (hp : t[p]? = some q) :
    literalEnd t p = p + 1 + quotedSpan q (t.drop (p + 1)) := by
  rw [literalEnd, drop_eq_cons hp]

theorem stops_drop (hp : t[p]? = some q) (hq : q ≠ '\\') :
    Stops q (t.drop (p + 1)) i ↔ Stops q t (p + 1 + i) := by
  have hlt : p < t.length := (List.getElem?_eq_some_iff.mp hp).1
  have hsplit : t.take p ++ q :: t.drop (p + 1) = t := by
    rw [← drop_eq_cons hp, List.take_append_drop]
  have hescaped := escaped_append (t := t.drop (p + 1)) (i := i) hq (t.take p)
  rw [hsplit, List.length_take_of_le (Nat.le_of_lt hlt)] at hescaped
  rw [Stops, Stops, List.getElem?_drop, hescaped]

theorem literalEnd_le (hp : t[p]? = some q) (hq : q ≠ '\\') (hi : p < i) (h : Stops q t i) :
    literalEnd t p ≤ i + 1 := by
  obtain ⟨k, rfl⟩ := Nat.exists_eq_add_of_lt hi
  rw [Nat.add_right_comm] at h
  have := quotedSpan_le hq ((stops_drop hp hq).mpr h)
  rw [literalEnd_eq hp]
  omega

theorem lt_literalEnd (hp : t[p]? = some q) (hq : q ≠ '\\') (hi : i < t.length)
    (h : ∀ j, p < j → j < i → ¬ Stops q t j) : i < literalEnd t p := by
  rw [literalEnd_eq hp]
  by_cases hle : i ≤ p
  · omega
  · have hlength : i - (p + 1) < (t.drop (p + 1)).length := by
      rw [List.length_drop]
      omega
    have hnone : ∀ j < i - (p + 1), ¬ Stops q (t.drop (p + 1)) j := fun j hj hstop =>
      h (p + 1 + j) (by omega) (by omega) ((stops_drop hp hq).mp hstop)
    have := lt_quotedSpan hlength hnone
    omega

theorem literalEnd_le_length (hp : t[p]? = some q) (h : t.getLast? ≠ some '\\') :
    literalEnd t p ≤ t.length := by
  have hlt : p < t.length := (List.getElem?_eq_some_iff.mp hp).1
  have hlast : (t.drop (p + 1)).getLast? ≠ some '\\' := by
    rw [List.getLast?_drop]
    split
    · simp
    · exact h
  have := quotedSpan_le_length q hlast
  rw [List.length_drop] at this
  rw [literalEnd_eq hp]
  omega

/-! ## Literals on a line -/

/-- A quote at `p`, and the newline at `n` that ends its line. -/
structure OnLine (t : Text) (p n : Nat) (q : Char) : Prop where
  quote : t[p]? = some q
  isQuote : q = '"' ∨ q = '\''
  lt : p < n
  newline : t[n]? = some '\n'
  first : ∀ j, p < j → j < n → t[j]? ≠ some '\n'

theorem onLine_of_findFrom? (hp : t[p]? = some q) (hq : q = '"' ∨ q = '\'')
    (h : findFrom? "\n" p t = some n) :
    OnLine t p n q := by
  have hstands : ∀ j, "\n".toList <+: t.drop j ↔ t[j]? = some '\n' := by
    intro j
    rw [← List.head?_drop]
    cases t.drop j <;> simp [eq_comm]
  obtain ⟨hle, hprefix⟩ := prefix_of_findFrom? h
  have hn := (hstands n).mp hprefix
  have hne : p ≠ n := by
    rintro rfl
    obtain rfl := Option.some.inj (hp.symm.trans hn)
    simp at hq
  refine ⟨hp, hq, by omega, hn, fun j hpj hj hnewline => ?_⟩
  obtain ⟨i, hi, -, hij⟩ :=
    exists_findFrom?_le (by decide) (Nat.le_of_lt hpj) ((hstands j).mpr hnewline)
  obtain rfl := Option.some.inj (h.symm.trans hi)
  omega

/-- No quote ends the literal up to `n`: those of its kind are all taken. -/
def LeftOpen (t : Text) (p n : Nat) : Prop := ∀ i, p < i → i < n → t[i]? = t[p]? → Escaped t i

namespace OnLine

theorem ne_backslash (h : OnLine t p n q) : q ≠ '\\' := by
  rcases h.isQuote with rfl | rfl <;> decide

theorem length_le (h : OnLine t p n q) : n + 1 ≤ t.length :=
  (List.getElem?_eq_some_iff.mp h.newline).1

theorem not_stops (h : OnLine t p n q) (hopen : LeftOpen t p n) :
    ∀ j, p < j → j < n → ¬ Stops q t j := by
  rintro j hpj hj ⟨hend | hend, hfree⟩
  · exact hfree (hopen j hpj hj (hend.trans h.quote.symm))
  · exact h.first j hpj hj hend

/-- A literal stays on its line, unless it is left open there, a backslash takes the newline, and
more text follows. -/
theorem literalEnd_le_iff (h : OnLine t p n q) :
    literalEnd t p ≤ n + 1 ↔ ¬ (LeftOpen t p n ∧ Escaped t n ∧ n + 1 < t.length) := by
  constructor
  · rintro hle ⟨hopen, hescaped, hlength⟩
    have hnone : ∀ j, p < j → j < n + 1 → ¬ Stops q t j := by
      intro j hpj hj
      rcases Nat.lt_or_eq_of_le (Nat.le_of_lt_succ hj) with hj | rfl
      · exact h.not_stops hopen j hpj hj
      · exact fun hstop => hstop.2 hescaped
    have := lt_literalEnd h.quote h.ne_backslash hlength hnone
    omega
  · intro hnot
    by_cases hescaped : Escaped t n
    · by_cases hopen : LeftOpen t p n
      · -- The newline is taken, but it is the last character.
        have hlength : t.length = n + 1 := by
          have := h.length_le
          have : ¬ n + 1 < t.length := fun hlt => hnot ⟨hopen, hescaped, hlt⟩
          omega
        have hlast : t.getLast? ≠ some '\\' := by
          rw [List.getLast?_eq_getElem?, hlength, Nat.add_sub_cancel, h.newline]
          decide
        have := literalEnd_le_length h.quote hlast
        omega
      · simp only [LeftOpen, Classical.not_forall] at hopen
        obtain ⟨i, hpi, hin, hquote, hfree⟩ := hopen
        have := literalEnd_le h.quote h.ne_backslash hpi ⟨.inl (hquote.trans h.quote), hfree⟩
        omega
    · exact literalEnd_le h.quote h.ne_backslash h.lt ⟨.inr h.newline, hescaped⟩

/-! ## Other text behind the line -/

theorem getElem?_other (h : OnLine t p n q) (hi : i ≤ n) (rest : Text) :
    (t.take (n + 1) ++ rest)[i]? = t[i]? := by
  rw [List.getElem?_append_left (by rw [List.length_take_of_le h.length_le]; omega),
    List.getElem?_take_of_lt (by omega)]

theorem take_other (h : OnLine t p n q) (hi : i ≤ n) (rest : Text) :
    (t.take (n + 1) ++ rest).take i = t.take i := by
  rw [List.take_append_of_le_length (by rw [List.length_take_of_le h.length_le]; omega),
    List.take_take, Nat.min_eq_left (by omega)]

theorem stops_other (h : OnLine t p n q) (hi : i ≤ n) (rest : Text) :
    Stops q (t.take (n + 1) ++ rest) i ↔ Stops q t i := by
  rw [Stops, Stops, Escaped, Escaped, h.getElem?_other hi, h.take_other hi]

end OnLine

/-! ## The search for a closing brace -/

/-- The search that begins at `start` comes to `p` in code, with `d` groups open. -/
def ComesTo (t : Text) (start p d : Nat) : Prop :=
  start ≤ p ∧ ∃ m : Mode, m.isCode ∧ walk .code 1 ((t.take p).drop start) = some (m, d)

theorem scan?_quote_of_isCode (hm : m.isCode) (hq : q = '"' ∨ q = '\'') (d : Nat) (cs : Text) :
    scan? m d (q :: cs) = scan? .code d (q :: cs) := by
  cases m with
  | code => rfl
  | slash => apply scan?_slash_of_head?_ne <;> rcases hq with rfl | rfl <;> simp
  | _ => cases hm

theorem closeFrom?_quote (hq : q = '"' ∨ q = '\'') (d p : Nat) (cs : Text) :
    closeFrom? d p (q :: cs)
      = closeFrom? d (p + 1 + quotedSpan q cs) (cs.drop (quotedSpan q cs)) := by
  rw [closeFrom?_eq_scan?, scan?_quote d cs hq, scan?_quoted, map_add_map_add, map_add_map_add,
    closeFrom?_eq_scan?]

/-- The search goes on behind the literal. -/
theorem ComesTo.close?_eq (hc : ComesTo t start p d) (hp : t[p]? = some q)
    (hq : q = '"' ∨ q = '\'') :
    close? t start = closeFrom? d (literalEnd t p) (t.drop (literalEnd t p)) := by
  obtain ⟨hstart, m, hm, hwalk⟩ := hc
  have htake : (t.take p).length = p :=
    List.length_take_of_le (Nat.le_of_lt (List.getElem?_eq_some_iff.mp hp).1)
  have hsplit : t.drop start = (t.take p).drop start ++ t.drop p := by
    rw [← List.drop_append_of_le_length (by omega), List.take_append_drop]
  have hlength : start + ((t.take p).drop start).length = p := by
    rw [List.length_drop, htake]
    omega
  have hrest : t.drop (literalEnd t p) = (t.drop (p + 1)).drop (quotedSpan q (t.drop (p + 1))) := by
    rw [literalEnd_eq hp, List.drop_drop]
  rw [close?_eq_scan?, hsplit, scan?_append_of_walk hwalk, map_add_map_add, hlength,
    drop_eq_cons hp, scan?_quote_of_isCode hm hq, ← closeFrom?_eq_scan?, closeFrom?_quote hq, hrest,
    literalEnd_eq hp]

theorem exists_scan?_braces (d : Nat) :
    ∃ k, scan? .code d (List.replicate (d + 1) '}') = some k := by
  induction d with
  | zero => exact ⟨0, rfl⟩
  | succ d ih =>
    by_cases hd : d + 1 ≤ 1
    · exact ⟨0, by simp [List.replicate_succ, scan?, Mode.closes, Mode.isCode, hd]⟩
    · obtain ⟨k, hk⟩ := ih
      exact ⟨k + 1, by rw [List.replicate_succ, scan?_close hd, Nat.add_sub_cancel, hk]; rfl⟩

namespace OnLine

theorem close?_other (h : OnLine t p n q) (hc : ComesTo t start p d) (rest : Text) :
    close? (t.take (n + 1) ++ rest) start = closeFrom? d (literalEnd (t.take (n + 1) ++ rest) p)
      ((t.take (n + 1) ++ rest).drop (literalEnd (t.take (n + 1) ++ rest) p)) := by
  have hcomes : ComesTo (t.take (n + 1) ++ rest) start p d := by
    rw [ComesTo, h.take_other (Nat.le_of_lt h.lt)]
    exact hc
  exact hcomes.close?_eq ((h.getElem?_other (Nat.le_of_lt h.lt) rest).trans h.quote) h.isQuote

theorem close?_of_not_escaped (h : OnLine t p n q) (hc : ComesTo t start p d)
    (hopen : LeftOpen t p n)
    (hfree : ¬ Escaped t n) (rest : Text) :
    close? (t.take (n + 1) ++ rest) start = closeFrom? d (n + 1) rest := by
  have htake : (t.take (n + 1)).length = n + 1 := List.length_take_of_le h.length_le
  have hquote := (h.getElem?_other (Nat.le_of_lt h.lt) rest).trans h.quote
  have hstop := (h.stops_other (Nat.le_refl n) rest).mpr ⟨.inr h.newline, hfree⟩
  have hnone : ∀ j, p < j → j < n → ¬ Stops q (t.take (n + 1) ++ rest) j := fun j hpj hj hj' =>
    h.not_stops hopen j hpj hj ((h.stops_other (Nat.le_of_lt hj) rest).mp hj')
  have hle := literalEnd_le hquote h.ne_backslash h.lt hstop
  have hlt := lt_literalEnd hquote h.ne_backslash (by rw [List.length_append, htake]; omega) hnone
  have hend : literalEnd (t.take (n + 1) ++ rest) p = n + 1 := by omega
  rw [h.close?_other hc, hend, List.drop_left' htake]

/-- Braces do not end a literal that has taken its newline. -/
theorem close?_of_escaped (h : OnLine t p n q) (hc : ComesTo t start p d) (hopen : LeftOpen t p n)
    (hescaped : Escaped t n) (k : Nat) :
    close? (t.take (n + 1) ++ List.replicate (k + 1) '}') start = none := by
  have htake : (t.take (n + 1)).length = n + 1 := List.length_take_of_le h.length_le
  have hquote := (h.getElem?_other (Nat.le_of_lt h.lt) (List.replicate (k + 1) '}')).trans h.quote
  have hnone : ∀ j, p < j → j < n + 1 + k →
      ¬ Stops q (t.take (n + 1) ++ List.replicate (k + 1) '}') j := by
    intro j hpj _ hstop
    rcases Nat.lt_trichotomy j n with hj | rfl | hj
    · exact h.not_stops hopen j hpj hj ((h.stops_other (Nat.le_of_lt hj) _).mp hstop)
    · exact ((h.stops_other (Nat.le_refl j) _).mp hstop).2 hescaped
    · have hbrace : ∀ c, (t.take (n + 1) ++ List.replicate (k + 1) '}')[j]? = some c → c = '}' := by
        intro c hj'
        rw [List.getElem?_append_right (by omega)] at hj'
        exact List.eq_of_mem_replicate (List.mem_of_getElem? hj')
      rcases hstop.1 with hend | hend
      · have hq := h.isQuote
        simp [hbrace q hend] at hq
      · exact absurd (hbrace _ hend) (by decide)
  have hlength : (t.take (n + 1) ++ List.replicate (k + 1) '}').length = n + 1 + k + 1 := by
    rw [List.length_append, htake, List.length_replicate, Nat.add_assoc (n + 1)]
  have hlt := lt_literalEnd hquote h.ne_backslash (by omega) hnone
  rw [h.close?_other hc, List.drop_of_length_le (by omega), closeFrom?]

/-- The text behind the line is searched as if the literal were not there, whatever it is, exactly
when no backslash takes the newline. -/
theorem sees_iff (h : OnLine t p n q) (hc : ComesTo t start p d) (hopen : LeftOpen t p n) :
    (∀ rest, close? (t.take (n + 1) ++ rest) start = closeFrom? d (n + 1) rest) ↔
    ¬ Escaped t n := by
  refine ⟨fun hsees hescaped => ?_, fun hfree rest => h.close?_of_not_escaped hc hopen hfree rest⟩
  -- Enough braces to close all groups tell the two searches apart.
  have hnone := hsees (List.replicate (d + 1) '}')
  obtain ⟨k, hk⟩ := exists_scan?_braces d
  rw [h.close?_of_escaped hc hopen hescaped, closeFrom?_eq_scan?, hk] at hnone
  cases hnone

end OnLine

/-- For every quote of a text and the first newline behind it: the literal ends at this newline at
the latest, unless it is left open up to there, a backslash takes the newline, and more text
follows. A search that comes to the quote in code goes on behind the literal; when the literal is
left open, it sees whatever stands on later lines exactly when no backslash takes the newline. -/
theorem literalEnd_le_newline_iff (hp : t[p]? = some q) (hq : q = '"' ∨ q = '\'')
    (hn : findFrom? "\n" p t = some n) :
    (literalEnd t p ≤ n + 1 ↔ ¬ (LeftOpen t p n ∧ Escaped t n ∧ n + 1 < t.length)) ∧
    ∀ start d, ComesTo t start p d →
      close? t start = closeFrom? d (literalEnd t p) (t.drop (literalEnd t p)) ∧
      (LeftOpen t p n →
        ((∀ rest, close? (t.take (n + 1) ++ rest) start = closeFrom? d (n + 1) rest) ↔
          ¬ Escaped t n)) := by
  have h := onLine_of_findFrom? hp hq hn
  exact ⟨h.literalEnd_le_iff, fun start d hc =>
    ⟨hc.close?_eq hp hq, fun hopen => h.sees_iff hc hopen⟩⟩

/-- A literal that is left open behind a taken quote and two backslashes. -/
def evenRow : Text := "\x7b \"a\\\"\\\\\n\x7d".toList

theorem literalEnd_le_newline_evenRow :
    (evenRow[2]? = some '"' ∧ findFrom? "\n" 2 evenRow = some 8 ∧ ComesTo evenRow 1 2 1 ∧
      LeftOpen evenRow 2 8)
    ∧ literalEnd evenRow 2 ≤ 9 ∧
    ∀ rest, close? (evenRow.take 9 ++ rest) 1 = closeFrom? 1 9 rest := by
  have hcomes : ComesTo evenRow 1 2 1 := ⟨by decide, .code, rfl, by decide⟩
  have hopen : LeftOpen evenRow 2 8 := by
    have hall : ∀ i < 8, 2 < i → evenRow[i]? = evenRow[2]? → Escaped evenRow i := by decide
    exact fun i hpi hi => hall i hi hpi
  have hfree : ¬ Escaped evenRow 8 := by decide
  obtain ⟨hend, hsearch⟩ :=
    literalEnd_le_newline_iff (t := evenRow) (p := 2) (q := '"') (n := 8) (by decide) (.inl rfl)
      (by decide)
  exact ⟨⟨by decide, by decide, hcomes, hopen⟩, hend.mpr fun h => hfree h.2.1,
    ((hsearch 1 1 hcomes).2 hopen).mpr hfree⟩

/-- A literal that is left open, with a backslash at the end of its line. -/
def takenNewline : Text := "type A struct \x7b\n N string \"a\\\n\x7d".toList

/-- The literal takes the newline and the closing brace of the struct on the next line, and the
struct is never closed. -/
theorem literal_takes_newline :
    (takenNewline[26]? = some '"' ∧ findFrom? "\n" 26 takenNewline = some 29)
    ∧ ¬ literalEnd takenNewline 26 ≤ 29 + 1
    ∧ takenNewline[30]? = some '}' ∧ closeFrom? 1 30 (takenNewline.drop 30) = some 30
    ∧ close? takenNewline 15 = none := by
  decide +kernel

end TagLint.Brace
