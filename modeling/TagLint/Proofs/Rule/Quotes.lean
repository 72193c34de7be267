import Mathlib.Data.List.Induction
import TagLint.Rule.Quotes

/-! Quotes read one character at a time: a span is open where its quotes so far are odd in number,
and no two spans are open together. -/
namespace TagLint

variable {q : QuoteReader} {a b t : Text} {c : Char}

/-- The quotes counted so far, the spans that are open, and whether a backslash was read last. -/
structure QuoteReader where
  single : Nat := 0
  double : Nat := 0
  inSingle : Bool := false
  inDouble : Bool := false
  escaped : Bool := false
deriving DecidableEq, Repr

namespace QuoteReader

def step (q : QuoteReader) (c : Char) : QuoteReader :=
  let next := c == '\\'
  if c = '\'' ∧ !q.inDouble ∧ !q.escaped then
    { q with single := q.single + 1, inSingle := !q.inSingle, escaped := next }
  else if c = '"' ∧ !q.inSingle ∧ !q.escaped then
    { q with double := q.double + 1, inDouble := !q.inDouble, escaped := next }
  else { q with escaped := next }

def read (q : QuoteReader) (t : Text) : QuoteReader := t.foldl step q

def balance (q : QuoteReader) : QuoteBalance := ⟨q.single, q.double⟩

/-- No span is open. -/
def IsOutside (q : QuoteReader) : Prop := q.inSingle = false ∧ q.inDouble = false

instance : Decidable q.IsOutside := inferInstanceAs (Decidable (_ ∧ _))

@[simp] theorem read_nil (q : QuoteReader) : q.read [] = q := rfl

@[simp] theorem read_cons (q : QuoteReader) (c : Char) (t : Text) :
    q.read (c :: t) = (q.step c).read t := rfl

theorem read_append (q : QuoteReader) (a b : Text) : q.read (a ++ b) = (q.read a).read b :=
  List.foldl_append

/-- A character is counted as a quote of one kind, or only read. -/
theorem step_cases (q : QuoteReader) (c : Char) :
    (c = '\'' ∧ q.inDouble = false ∧ q.escaped = false ∧
      q.step c = { q with single := q.single + 1, inSingle := !q.inSingle, escaped := false }) ∨
    (c = '"' ∧ q.inSingle = false ∧ q.escaped = false ∧
      q.step c = { q with double := q.double + 1, inDouble := !q.inDouble, escaped := false }) ∨
    (¬ (c = '\'' ∧ q.inDouble = false ∧ q.escaped = false) ∧
      ¬ (c = '"' ∧ q.inSingle = false ∧ q.escaped = false) ∧
      q.step c = { q with escaped := c == '\\' }) := by
  by_cases hsingle : c = '\'' ∧ q.inDouble = false ∧ q.escaped = false
  · left
    obtain ⟨rfl, hin, hescaped⟩ := hsingle
    simp [step, hin, hescaped]
  · right
    by_cases hdouble : c = '"' ∧ q.inSingle = false ∧ q.escaped = false
    · left
      obtain ⟨rfl, hin, hescaped⟩ := hdouble
      simp [step, hin, hescaped]
    · right
      simp [step, hsingle, hdouble]

/-! ## The flags are the parities of the counts -/

structure Consistent (q : QuoteReader) : Prop where
  single : q.inSingle ↔ q.single % 2 = 1
  double : q.inDouble ↔ q.double % 2 = 1
  exclusive : ¬ (q.inSingle ∧ q.inDouble)

theorem consistent_start : Consistent {} := by
  constructor <;> simp

theorem consistent_step (h : q.Consistent) (c : Char) : (q.step c).Consistent := by
  have hsingle := h.single
  have hdouble := h.double
  rcases step_cases q c with ⟨-, hin, -, hstep⟩ | ⟨-, hin, -, hstep⟩ | ⟨-, -, hstep⟩
  · -- an opening or a closing single quote, outside a span of the other kind
    cases hflag : q.inSingle <;> constructor <;> simp_all <;> omega
  · cases hflag : q.inDouble <;> constructor <;> simp_all <;> omega
  · rw [hstep]
    exact ⟨hsingle, hdouble, h.exclusive⟩

theorem consistent_read (h : q.Consistent) (t : Text) : (q.read t).Consistent := by
  induction t generalizing q with
  | nil => exact h
  | cons c t ih => exact ih (consistent_step h c)

theorem Consistent.not_both_odd (h : q.Consistent) : ¬ (q.single % 2 = 1 ∧ q.double % 2 = 1) := by
  intro hodd
  exact h.exclusive ⟨h.single.mpr hodd.1, h.double.mpr hodd.2⟩

theorem Consistent.isBalanced_iff (h : q.Consistent) : q.balance.isBalanced ↔ q.IsOutside := by
  have hsingle := h.single
  have hdouble := h.double
  cases hs : q.inSingle <;> cases hd : q.inDouble <;>
    simp_all [QuoteBalance.isBalanced, balance, IsOutside]

/-! ## The count is that of the reader -/

/-- The span that is open. -/
def inside (q : QuoteReader) : Option QuoteKind :=
  if q.inSingle then some .single else if q.inDouble then some .double else none

theorem inside_ne_single_iff (q : QuoteReader) : q.inside ≠ some .single ↔ q.inSingle = false := by
  cases hs : q.inSingle <;> cases hd : q.inDouble <;> simp [inside, hs, hd]

theorem Consistent.inside_ne_double_iff (h : q.Consistent) :
    q.inside ≠ some .double ↔ q.inDouble = false := by
  have hexclusive := h.exclusive
  cases hs : q.inSingle <;> cases hd : q.inDouble <;> simp_all [inside]

theorem scan_eq (h : q.Consistent) (t : Text) :
    QuoteBalance.scan q.inside q.escaped q.balance t = (q.read t).balance := by
  induction t generalizing q with
  | nil => rfl
  | cons c t ih =>
    rw [read_cons, ← ih (consistent_step h c), QuoteBalance.scan]
    simp only [h.inside_ne_double_iff, inside_ne_single_iff, Bool.not_eq_true']
    rcases step_cases q c with ⟨rfl, hin, hescaped, hstep⟩ | ⟨rfl, hin, hescaped, hstep⟩ |
      ⟨hsingle, hdouble, hstep⟩
    · cases hflag : q.inSingle <;> simp [hstep, inside, balance, hin, hescaped, hflag]
    · cases hflag : q.inDouble <;> simp [hstep, inside, balance, hin, hescaped, hflag]
    · rw [if_neg hsingle, if_neg hdouble, hstep]
      rfl

theorem ofText_eq (t : Text) : QuoteBalance.ofText t = (read {} t).balance :=
  scan_eq consistent_start t

/-! ## Reading on -/

/-- The reader with more quotes counted before. -/
def ahead (b : QuoteBalance) (q : QuoteReader) : QuoteReader :=
  { q with single := b.single + q.single, double := b.double + q.double }

theorem step_ahead (b : QuoteBalance) (q : QuoteReader) (c : Char) :
    (q.ahead b).step c = (q.step c).ahead b := by
  rcases step_cases q c with ⟨rfl, hin, hescaped, -⟩ | ⟨rfl, hin, hescaped, -⟩ |
    ⟨hsingle, hdouble, hstep⟩
  · simp [step, ahead, hin, hescaped, Nat.add_assoc]
  · simp [step, ahead, hin, hescaped, Nat.add_assoc]
  · rw [hstep]
    simp [step, ahead, hsingle, hdouble]

theorem read_ahead (b : QuoteBalance) (q : QuoteReader) (t : Text) :
    (q.ahead b).read t = (q.read t).ahead b := by
  induction t generalizing q with
  | nil => rfl
  | cons c t ih =>
    rw [read_cons, read_cons, step_ahead]
    exact ih (q.step c)

theorem escaped_step (q : QuoteReader) (c : Char) : (q.step c).escaped = (c == '\\') := by
  rcases step_cases q c with ⟨rfl, -, -, hstep⟩ | ⟨rfl, -, -, hstep⟩ | ⟨-, -, hstep⟩
    <;> simp [hstep]

theorem escaped_read (t : Text) : (read {} t).escaped = (t.getLast? == some '\\') := by
  induction t using List.reverseRecOn with
  | nil => rfl
  | append_singleton t c _ =>
    rw [read_append]
    simp [escaped_step]

/-- Outside all spans and not behind a backslash, a reader goes on as from the start. -/
theorem eq_ahead_of_isOutside (h : q.IsOutside) (hescaped : q.escaped = false) :
    q = ahead q.balance {} := by
  obtain ⟨hsingle, hdouble⟩ := h
  cases q
  simp_all [ahead, balance]

/-! ## The kinds exchanged -/

def swapQuote (c : Char) : Char := if c = '\'' then '"' else if c = '"' then '\'' else c

def swap (q : QuoteReader) : QuoteReader :=
  ⟨q.double, q.single, q.inDouble, q.inSingle, q.escaped⟩

theorem step_swap (q : QuoteReader) (c : Char) : q.swap.step (swapQuote c) = (q.step c).swap := by
  rcases step_cases q c with ⟨rfl, hin, hescaped, -⟩ | ⟨rfl, hin, hescaped, -⟩ |
    ⟨hsingle, hdouble, hstep⟩
  · simp [swapQuote, step, swap, hin, hescaped]
  · simp [swapQuote, step, swap, hin, hescaped]
  · rw [hstep]
    by_cases hs : c = '\''
    · subst c
      simp_all [swapQuote, step, swap]
    · by_cases hd : c = '"'
      · subst c
        simp_all [swapQuote, step, swap]
      · simp [swapQuote, step, swap, hs, hd]

theorem read_swap (q : QuoteReader) (t : Text) :
    q.swap.read (t.map swapQuote) = (q.read t).swap := by
  induction t generalizing q with
  | nil => rfl
  | cons c t ih =>
    rw [List.map_cons, read_cons, read_cons, step_swap]
    exact ih (q.step c)

end QuoteReader

namespace QuoteBalance
open QuoteReader

theorem ofText_append (ha : (ofText a).isBalanced) (hlast : a.getLast? ≠ some '\\') (b : Text) :
    ofText (a ++ b)
      = ⟨(ofText a).single + (ofText b).single, (ofText a).double + (ofText b).double⟩ := by
  simp only [ofText_eq] at ha ⊢
  have houtside := (consistent_read consistent_start a).isBalanced_iff.mp ha
  have hescaped : (read {} a).escaped = false := by
    simpa [escaped_read] using hlast
  rw [read_append, eq_ahead_of_isOutside houtside hescaped, read_ahead]
  rfl

/-- Counting quotes goes piece by piece: never are both counts odd, and both are even where the
reader ends outside every span; behind a balanced text that does not end in a backslash the counts
add up; and exchanging the two kinds of quotes exchanges the counts. -/
theorem ofText_compositional (t a b : Text) :
    ofText t = (QuoteReader.read {} t).balance ∧
    ¬ ((ofText t).single % 2 = 1 ∧ (ofText t).double % 2 = 1) ∧
    ((ofText t).isBalanced ↔ (QuoteReader.read {} t).IsOutside) ∧
    ((ofText a).isBalanced → a.getLast? ≠ some '\\' → ofText (a ++ b)
      = ⟨(ofText a).single + (ofText b).single, (ofText a).double + (ofText b).double⟩) ∧
    ofText (t.map swapQuote) = ⟨(ofText t).double, (ofText t).single⟩ := by
  have hread := consistent_read consistent_start t
  refine ⟨ofText_eq t, ?_, ?_, fun ha hlast => ofText_append ha hlast b, ?_⟩
  · rw [ofText_eq]
    exact hread.not_both_odd
  · rw [ofText_eq]
    exact hread.isBalanced_iff
  · rw [ofText_eq, ofText_eq]
    exact congrArg balance (read_swap {} t)

/-- A span that holds a quote of the other kind, and an escaped quote; then a span that stays
open. -/
theorem ofText_compositional_spans :
    (ofText "\"it's\" \\' ".toList).isBalanced ∧ "\"it's\" \\' ".toList.getLast? ≠ some '\\' ∧
    ofText ("\"it's\" \\' ".toList ++ "'\"'\"".toList) = ⟨2, 3⟩ ∧
    ¬ (QuoteReader.read {} ("\"it's\" \\' ".toList ++ "'\"'\"".toList)).IsOutside := by
  have hbalanced : (ofText "\"it's\" \\' ".toList).isBalanced := by decide
  have hlast : "\"it's\" \\' ".toList.getLast? ≠ some '\\' := by decide
  obtain ⟨-, -, houtside, -⟩ :=
    ofText_compositional ("\"it's\" \\' ".toList ++ "'\"'\"".toList) [] []
  obtain ⟨-, -, -, happend, -⟩ := ofText_compositional [] "\"it's\" \\' ".toList "'\"'\"".toList
  refine ⟨hbalanced, hlast, (happend hbalanced hlast).trans (by decide), ?_⟩
  intro hread
  have hopen := houtside.mpr hread
  revert hopen
  decide

end QuoteBalance
end TagLint
