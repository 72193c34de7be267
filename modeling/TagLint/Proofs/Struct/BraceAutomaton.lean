import TagLint.Proofs.Struct.BraceScan

/-! The closing brace as an automaton sees it: it reads a text one character at a time and never
stops. -/
namespace TagLint.Brace

/-- What is known between two characters: the mode, and how many groups are open. -/
structure Reader where
  mode : Mode := .code
  depth : Int := 1
deriving DecidableEq, Repr

namespace Reader

/-- Braces of code change the depth by one, and nothing else does. -/
def step (s : Reader) (c : Char) : Reader where
  mode := s.mode.next c
  depth :=
    if s.mode.isCode ∧ c = '{' then s.depth + 1
    else if s.mode.isCode ∧ c = '}' then s.depth - 1
    else s.depth

def read (s : Reader) (t : Text) : Reader := t.foldl step s

/-- A closing brace of code that brings the depth to zero. -/
def ends (s : Reader) (c : Char) : Bool := s.mode.isCode && c == '}' && (s.step c).depth == 0

/-- Whether the character with index `i` of a text ends the group that is open in front of it. -/
def endsAt (s : Reader) (t : Text) (i : Nat) : Bool :=
  match t[i]? with
  | some c => (s.read (t.take i)).ends c
  | none => false

@[simp] theorem read_nil (s : Reader) : s.read [] = s := rfl

@[simp] theorem read_cons (s : Reader) (c : Char) (t : Text) :
    s.read (c :: t) = (s.step c).read t := rfl

theorem read_append (s : Reader) (a b : Text) : s.read (a ++ b) = (s.read a).read b :=
  List.foldl_append

@[simp] theorem endsAt_zero (s : Reader) (c : Char) (t : Text) : s.endsAt (c :: t) 0 = s.ends c :=
  rfl

@[simp] theorem endsAt_succ (s : Reader) (c : Char) (t : Text) (i : Nat) :
    s.endsAt (c :: t) (i + 1) = (s.step c).endsAt t i := rfl

end Reader

variable {m : Mode} {d : Nat} {c : Char}

theorem closes_eq_ends (hd : 1 ≤ d) : m.closes c d = Reader.ends ⟨m, d⟩ c := by
  by_cases hc : c = '}'
  · subst hc
    cases hm : m.isCode with
    | false => simp [Mode.closes, Reader.ends, hm]
    | true =>
      have hzero : d ≤ 1 ↔ (d : Int) - 1 = 0 := by omega
      simp only [Mode.closes, Reader.ends, Reader.step, hm, hzero]
      rfl
  · have hne : (c == '}') = false := by simpa using hc
    simp [Mode.closes, Reader.ends, hne]

/-- As long as the outermost group stays open, both count the same depth, and it stays positive. -/
theorem step_of_not_closes (hd : 1 ≤ d) (h : m.closes c d = false) :
    Reader.step ⟨m, d⟩ c = ⟨m.next c, m.depth c d⟩ ∧ 1 ≤ m.depth c d := by
  cases hm : m.isCode with
  | false => simp [Reader.step, Mode.depth, hm, hd]
  | true =>
    by_cases hopen : c = '{'
    · subst hopen
      simp [Reader.step, Mode.depth, hm]
    · by_cases hclose : c = '}'
      · subst hclose
        have hd' : 1 < d := by simpa [Mode.closes, hm] using h
        simp only [Reader.step, Mode.depth, hm, if_true, if_neg hopen]
        simp
        omega
      · simp [Reader.step, Mode.depth, hopen, hclose, hd]

theorem scan?_eq_find? (m : Mode) (hd : 1 ≤ d) (t : Text) :
    scan? m d t = (List.range t.length).find? (Reader.endsAt ⟨m, d⟩ t) := by
  induction t generalizing m d with
  | nil => rfl
  | cons c t ih =>
    rw [scan?, List.length_cons, List.range_succ_eq_map, List.find?_cons, Reader.endsAt_zero,
      ← closes_eq_ends hd]
    cases h : m.closes c d with
    | true => rfl
    | false =>
      obtain ⟨hstep, hd'⟩ := step_of_not_closes hd h
      have hnext : Reader.endsAt ⟨m, d⟩ (c :: t) ∘ Nat.succ
          = Reader.endsAt ⟨m.next c, m.depth c d⟩ t := by
        funext i
        rw [Function.comp_apply, Reader.endsAt_succ, hstep]
      rw [List.find?_map, hnext, ← ih (m.next c) hd']
      rfl

/-- The search with its jumps finds what the automaton finds, started in code with one open group:
the first index from `start` on that ends this group. -/
theorem close?_eq_find?_endsAt (t : Text) (start : Nat) :
    close? t start = (List.range' start (t.length - start)).find?
      fun i => Reader.endsAt {} (t.drop start) (i - start) := by
  have hshift : (fun i => Reader.endsAt {} (t.drop start) (i - start)) ∘ (start + ·)
      = Reader.endsAt {} (t.drop start) := by
    funext i
    rw [Function.comp_apply, Nat.add_sub_cancel_left]
  have hscan := scan?_eq_find? .code (Nat.le_refl 1) (t.drop start)
  rw [close?_eq_scan?, hscan, List.length_drop, List.range'_eq_map_range, List.find?_map, hshift]
  simp only [Nat.add_comm start]
  rfl

end TagLint.Brace
