import TagLint.Proofs.Struct.BraceScan
import TagLint.Proofs.Struct.SourceLines

/-! The scan for a closing brace over printed lines. -/
namespace TagLint.Source
open Text Brace

variable {c : Char} {s t : Text} {m : Mode} {d d' : Nat}

/-! ## Pieces of a line -/

theorem afterCode_of_isPlain (hc : isPlain c) : Mode.afterCode c = .code := by
  have hne : ∀ x ∈ marks, c ≠ x := by
    rintro x hx rfl
    rw [isPlain, List.contains_iff_mem.mpr hx] at hc
    exact absurd hc (by decide)
  have hraw := hne backtick (by decide)
  have hdouble := hne '"' (by decide)
  have hsingle := hne '\'' (by decide)
  have hslash := hne '/' (by decide)
  simp [Mode.afterCode, hraw, hdouble, hsingle, hslash]

/-- Outside of code nothing counts until the mode changes. -/
theorem walk_of_next (hm : m.isCode = false) (ht : ∀ c ∈ t, m.next c = m) :
    walk m d t = some (m, d) := by
  induction t with
  | nil => rfl
  | cons c t ih =>
    have hrest := ih fun x hx => ht x (List.mem_cons_of_mem c hx)
    have hcloses : m.closes c d = false := by simp [Mode.closes, hm]
    have hdepth : m.depth c d = d := by simp [Mode.depth, hm]
    rw [walk, hcloses, hdepth, ht c List.mem_cons_self]
    exact hrest

theorem walk_raw (ht : backtick ∉ t) : walk .raw d t = some (.raw, d) := by
  apply walk_of_next rfl
  intro c hc
  apply if_neg
  rintro rfl
  exact ht hc

theorem walk_line (ht : '\n' ∉ t) : walk .line d t = some (.line, d) := by
  apply walk_of_next rfl
  intro c hc
  apply if_neg
  rintro rfl
  exact ht hc

theorem balance_cons (c : Char) (t : Text) : balance (c :: t) = balance [c] + balance t :=
  balance_append [c] t

/-- Plain text moves the depth by its balance, if no brace of it closes the outermost group. -/
theorem walk_plain (ht : ∀ c ∈ t, isPlain c) (hpos : ∀ n, 0 < (d : Int) + balance (t.take n))
    (hd : (d' : Int) = d + balance t) : walk .code d t = some (.code, d') := by
  induction t generalizing d with
  | nil =>
    have hzero : balance [] = 0 := rfl
    have : d' = d := by omega
    rw [walk, this]
  | cons c t ih =>
    have hfirst : 0 < (d : Int) + balance [c] := hpos 1
    have hcloses : Mode.closes .code c d = false := by
      by_cases hc : c = '}'
      · subst hc
        have : balance ['}'] = -1 := rfl
        simp only [Mode.closes, Mode.isCode, Bool.true_and, beq_self_eq_true,
          decide_eq_false_iff_not]
        omega
      · simp [Mode.closes, hc]
    have hdepth : (Mode.depth .code c d : Int) = d + balance [c] := by
      by_cases hopen : c = '{'
      · subst hopen
        rfl
      · by_cases hclose : c = '}'
        · subst hclose
          have : balance ['}'] = -1 := rfl
          simp only [Mode.depth, Mode.isCode, if_true, if_neg hopen]
          omega
        · simp [Mode.depth, hopen, hclose, balance]
    rw [walk, hcloses, Mode.next, afterCode_of_isPlain (ht c List.mem_cons_self)]
    apply ih fun x hx => ht x (List.mem_cons_of_mem c hx)
    · intro n
      have := hpos (n + 1)
      rw [List.take_succ_cons, balance_cons] at this
      omega
    · rw [balance_cons] at hd
      omega

theorem walk_indent (i : Indent) (hd : 0 < d) : walk .code d i.text = some (.code, d) := by
  have hzero : ∀ n, balance (i.text.take n) = 0 := fun n =>
    balance_of_blank fun c hc => i.isBlank c (List.mem_of_mem_take hc)
  apply walk_plain i.isPlain
  · intro n
    rw [hzero]
    omega
  · rw [balance_of_blank i.isBlank, Int.add_zero]

theorem walk_noteText (note : Option Note) (d : Nat) :
    walk .code d (noteText note ++ ['\n']) = some (.code, d) := by
  cases note with
  | none => rfl
  | some n =>
    have hstart : walk .code d " //".toList = some (.line, d) := rfl
    rw [noteText, List.append_assoc, walk_append, hstart, Option.bind_some, walk_append,
      walk_line n.newline]
    rfl

theorem walk_ending (e : Ending) (hd : 0 < d) :
    walk .code d (e.text ++ ['\n']) = some (.code, d) := by
  cases e with
  | bare note h => exact walk_noteText note d
  | tagged pad tag note =>
    have hstart : walk .code d [backtick] = some (.raw, d) := rfl
    have hend : walk .raw d [backtick] = some (.code, d) := rfl
    have htext : Ending.text (.tagged pad tag note) ++ ['\n']
        = pad.text ++ ([backtick] ++ (tag.text ++ ([backtick] ++ (noteText note ++ ['\n'])))) := by
      simp [Ending.text]
    rw [htext, walk_append, walk_indent pad hd, Option.bind_some, walk_append, hstart,
      Option.bind_some, walk_append, walk_raw tag.backtick, Option.bind_some, walk_append, hend,
      Option.bind_some, walk_noteText]

/-! ## Lines -/

theorem walk_solid (i : Indent) (hs : Solid s) (e : Ending) (hd : 0 < d) (hd' : 0 < d')
    (hpos : ∀ n, 0 < (d : Int) + balance (s.take n)) (hbal : (d' : Int) = d + balance s) :
    walk .code d (i.text ++ (s ++ e.text) ++ ['\n']) = some (.code, d') := by
  rw [List.append_assoc, List.append_assoc, walk_append, walk_indent i hd, Option.bind_some,
    walk_append, walk_plain hs.plain hpos hbal, Option.bind_some, walk_ending e hd']

/-- A line without a group leaves the depth as it is. -/
theorem walk_printed (i : Indent) (l : Line) (hd : 0 < d) :
    walk .code d (i.text ++ l.text ++ ['\n']) = some (.code, d) := by
  cases l with
  | blank =>
    rw [Line.text, List.append_nil, walk_append, walk_indent i hd]
    rfl
  | comment note =>
    have hstart : walk .code d "//".toList = some (.line, d) := rfl
    rw [Line.text, List.append_assoc, List.append_assoc, walk_append, walk_indent i hd,
      Option.bind_some, walk_append, hstart, Option.bind_some, walk_append, walk_line note.newline]
    rfl
  | decl decl e =>
    apply walk_solid i decl.solid e hd hd
    · intro n
      have := decl.balance_take n
      omega
    · rw [decl.balance_text, Int.add_zero]

@[simp] theorem unlines_nil : unlines [] = [] := rfl

@[simp] theorem unlines_cons (l : Text) (ls : List Text) :
    unlines (l :: ls) = l ++ ['\n'] ++ unlines ls :=
  rfl

@[simp] theorem unlines_append (ls ms : List Text) :
    unlines (ls ++ ms) = unlines ls ++ unlines ms :=
  List.flatMap_append

/-- The lines of a body close every group that they open. -/
theorem walk_block (b : Block) (hd : 0 < d) : walk .code d (unlines b.lines) = some (.code, d) := by
  induction b generalizing d with
  | nil => rfl
  | line i l rest ih =>
    rw [Block.lines, unlines_cons, walk_append, walk_printed i l hd, Option.bind_some, ih hd]
  | group i name shape inner j e rest ihInner ihRest =>
    have hopen : walk .code d (i.text ++ opener name shape ++ ['\n']) = some (.code, d + 1) := by
      have h := walk_solid i (opener_solid name shape) .empty hd (Nat.succ_pos d)
        (fun n => ?_) (by rw [balance_opener]; omega)
      · simpa using h
      · have := balance_take_opener name shape n
        omega
    have hclose : walk .code (d + 1) (j.text ++ '}' :: e.text ++ ['\n']) = some (.code, d) := by
      have hone : balance ['}'] = -1 := rfl
      apply walk_solid j closer_solid e (Nat.succ_pos d) hd
      · intro n
        cases n with
        | zero =>
          rw [List.take_zero, balance_of_not_mem List.not_mem_nil List.not_mem_nil]
          omega
        | succ n =>
          rw [List.take_succ_cons, List.take_nil, hone]
          omega
      · omega
    rw [Block.lines, List.cons_append, unlines_cons, walk_append, hopen, Option.bind_some,
      unlines_append, walk_append, ihInner (Nat.succ_pos d), Option.bind_some, unlines_cons,
      walk_append, hclose, Option.bind_some, ihRest hd]

/-- The scan from the header of a printed struct stops at its closing brace. -/
theorem close?_inside (s : Struct) (rest : Text) :
    close? (s.inside ++ '}' :: rest) 0 = some s.inside.length := by
  have hstart : walk .code 1 ['\n'] = some (.code, 1) := rfl
  have hinside : s.inside = ['\n'] ++ (unlines s.body.lines ++ s.closeIndent.text) := by
    simp [Struct.inside]
  have hwalk : walk .code 1 s.inside = some (.code, 1) := by
    rw [hinside, walk_append, hstart, Option.bind_some, walk_append, walk_block _ Nat.one_pos,
      Option.bind_some, walk_indent _ Nat.one_pos]
  rw [close?_eq_scan?, List.drop_zero, scan?_append_of_walk hwalk]
  simp [scan?, Mode.closes, Mode.isCode]

end TagLint.Source
