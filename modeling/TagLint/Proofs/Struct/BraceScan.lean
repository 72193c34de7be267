import TagLint.Struct.Brace

/-! The search for a closing brace, one character at a time. -/
namespace TagLint.Brace

/-- What a character stands in. A slash may start a comment, a star may end one. -/
inductive Mode where
  | code
  | slash
  | raw
  | quoted (quote : Char)
  | escaped (quote : Char)
  | line
  | block
  | star
deriving DecidableEq, Repr

namespace Mode

def isCode : Mode → Bool
  | code | slash => true
  | _ => false

/-- What starts after a character of code. -/
def afterCode (c : Char) : Mode :=
  if c = backtick then raw
  else if c = '"' ∨ c = '\'' then quoted c
  else if c = '/' then slash
  else code

def next : Mode → Char → Mode
  | code, c => afterCode c
  | slash, c => if c = '/' then line else if c = '*' then block else afterCode c
  | raw, c => if c = backtick then code else raw
  | quoted q, c => if c = '\\' then escaped q else if c = q ∨ c = '\n' then code else quoted q
  | escaped q, _ => quoted q
  | line, c => if c = '\n' then code else line
  | block, c => if c = '*' then star else block
  | star, c => if c = '/' then code else if c = '*' then star else block

/-- Only braces of code change the depth. -/
def depth (m : Mode) (c : Char) (d : Nat) : Nat :=
  if m.isCode then if c = '{' then d + 1 else if c = '}' then d - 1 else d else d

/-- Whether the character closes the outermost group. -/
def closes (m : Mode) (c : Char) (d : Nat) : Bool := m.isCode && c == '}' && decide (d ≤ 1)

end Mode

/-- The index of the first character that closes the outermost group. -/
def scan? (m : Mode) (d : Nat) : Text → Option Nat
  | [] => none
  | c :: cs => if m.closes c d then some 0 else (scan? (m.next c) (m.depth c d) cs).map (· + 1)

variable {m : Mode} {d n : Nat} {a b cs : Text} {c q : Char}

theorem scan?_cons_of_not_code (h : m.isCode = false) :
    scan? m d (c :: cs) = (scan? (m.next c) d cs).map (· + 1) := by
  simp [scan?, Mode.closes, Mode.depth, h]

theorem map_add_map_add (o : Option Nat) (i j : Nat) :
    (o.map (· + i)).map (· + j) = o.map (· + (j + i)) := by
  cases o with
  | none => rfl
  | some k => simp; omega

/-! ## Jumps -/

theorem scan?_line (d : Nat) (cs : Text) :
    scan? .line d cs = (scan? .code d (cs.drop (lineSpan cs))).map (· + lineSpan cs) := by
  induction cs with
  | nil => simp [scan?]
  | cons c cs ih =>
    rw [scan?_cons_of_not_code rfl]
    by_cases hc : c = '\n'
    · simp [Mode.next, lineSpan, hc]
    · simp only [Mode.next, lineSpan, if_neg hc, List.drop_succ_cons]
      rw [ih]
      simp [Function.comp_def, Nat.add_assoc]

theorem scan?_raw (d : Nat) (cs : Text) :
    scan? .raw d cs = (rawSpan? cs).bind fun n => (scan? .code d (cs.drop n)).map (· + n) := by
  induction cs with
  | nil => simp [scan?, rawSpan?]
  | cons c cs ih =>
    rw [scan?_cons_of_not_code rfl]
    by_cases hc : c = backtick
    · simp [Mode.next, rawSpan?, hc, List.findIdx?_cons]
    · simp only [Mode.next, if_neg hc]
      rw [ih]
      simp only [rawSpan?, List.findIdx?_cons, beq_iff_eq, hc, if_false]
      cases List.findIdx? (· == backtick) cs with
      | none => simp
      | some k => simp [Function.comp_def, Nat.add_assoc]

theorem scan?_quoted (q : Char) (d : Nat) (cs : Text) :
    scan? (.quoted q) d cs
      = (scan? .code d (cs.drop (quotedSpan q cs))).map (· + quotedSpan q cs) := by
  fun_induction quotedSpan q cs with
  | case1 => simp [scan?]
  | case2 => simp [scan?, Mode.closes, Mode.isCode]
  | case3 c cs ih =>
    rw [scan?_cons_of_not_code rfl, Mode.next, if_pos rfl, scan?_cons_of_not_code rfl, Mode.next,
      ih]
    simp [Function.comp_def, Nat.add_assoc]
  | case4 c cs hlast hpair hc =>
    have hne : c ≠ '\\' := by cases cs <;> simp_all
    rw [scan?_cons_of_not_code rfl, Mode.next, if_neg hne, if_pos hc]
    simp
  | case5 c cs hlast hpair hc ih =>
    have hne : c ≠ '\\' := by cases cs <;> simp_all
    rw [scan?_cons_of_not_code rfl, Mode.next, if_neg hne, if_neg hc, ih]
    simp [Function.comp_def, Nat.add_assoc]

/-- A star that no slash follows is like any other character of a block comment. -/
theorem scan?_star_of_head?_ne (h : cs.head? ≠ some '/') :
    scan? .star d cs = scan? .block d cs := by
  cases cs with
  | nil => rfl
  | cons c cs =>
    have hc : c ≠ '/' := by simpa using h
    rw [scan?_cons_of_not_code rfl, scan?_cons_of_not_code rfl, Mode.next, Mode.next, if_neg hc]

theorem blockSpan?_close (cs : Text) : blockSpan? ('*' :: '/' :: cs) = some 2 := by
  simp [blockSpan?, Text.find?]

theorem blockSpan?_cons (h : ¬ ['*', '/'] <+: c :: cs) :
    blockSpan? (c :: cs) = (blockSpan? cs).map (· + 1) := by
  have hp : ¬ ('*' = c ∧ ['/'] <+: cs) := by simpa using h
  simp [blockSpan?, Text.find?, hp, Function.comp_def, Nat.add_right_comm]

theorem scan?_block (d : Nat) (cs : Text) :
    scan? .block d cs = (blockSpan? cs).bind fun n => (scan? .code d (cs.drop n)).map (· + n) := by
  induction cs with
  | nil => simp [scan?, blockSpan?, Text.find?]
  | cons c cs ih =>
    rw [scan?_cons_of_not_code rfl]
    by_cases hstop : ['*', '/'] <+: c :: cs
    · obtain ⟨r, hr⟩ := hstop
      obtain ⟨rfl, rfl⟩ : '*' = c ∧ '/' :: r = cs := by simpa using hr
      rw [Mode.next, if_pos rfl, scan?_cons_of_not_code rfl, Mode.next, if_pos rfl,
        blockSpan?_close]
      simp [Function.comp_def]
    · have hnext : scan? (Mode.next .block c) d cs = scan? .block d cs := by
        by_cases hc : c = '*'
        · subst hc
          apply scan?_star_of_head?_ne
          cases cs <;> simp_all [eq_comm]
        · rw [Mode.next, if_neg hc]
      rw [hnext, ih, blockSpan?_cons hstop]
      cases blockSpan? cs with
      | none => simp
      | some k => simp [Function.comp_def, Nat.add_assoc]

/-! ## Code -/

/-- A slash that starts no comment is like any other character of code. -/
theorem scan?_slash_of_head?_ne (h₁ : cs.head? ≠ some '/') (h₂ : cs.head? ≠ some '*') :
    scan? .slash d cs = scan? .code d cs := by
  cases cs with
  | nil => rfl
  | cons c cs =>
    have hc₁ : c ≠ '/' := by simpa using h₁
    have hc₂ : c ≠ '*' := by simpa using h₂
    simp [scan?, Mode.closes, Mode.depth, Mode.isCode, Mode.next, hc₁, hc₂]

theorem scan?_lineComment (d : Nat) (cs : Text) :
    scan? .code d ('/' :: '/' :: cs) = (scan? .line d cs).map (· + 2) := by
  simp [scan?, Mode.closes, Mode.depth, Mode.isCode, Mode.next, Mode.afterCode, backtick,
    Function.comp_def]

theorem scan?_blockComment (d : Nat) (cs : Text) :
    scan? .code d ('/' :: '*' :: cs) = (scan? .block d cs).map (· + 2) := by
  simp [scan?, Mode.closes, Mode.depth, Mode.isCode, Mode.next, Mode.afterCode, backtick,
    Function.comp_def]

theorem scan?_rawString (d : Nat) (cs : Text) :
    scan? .code d (backtick :: cs) = (scan? .raw d cs).map (· + 1) := by
  simp [scan?, Mode.closes, Mode.depth, Mode.isCode, Mode.next, Mode.afterCode, backtick]

theorem scan?_quote (d : Nat) (cs : Text) (h : q = '"' ∨ q = '\'') :
    scan? .code d (q :: cs) = (scan? (.quoted q) d cs).map (· + 1) := by
  obtain rfl | rfl := h <;>
    simp [scan?, Mode.closes, Mode.depth, Mode.isCode, Mode.next, Mode.afterCode, backtick]

theorem scan?_open (d : Nat) (cs : Text) :
    scan? .code d ('{' :: cs) = (scan? .code (d + 1) cs).map (· + 1) := by
  simp [scan?, Mode.closes, Mode.depth, Mode.isCode, Mode.next, Mode.afterCode, backtick]

theorem scan?_close (h : ¬ d ≤ 1) (cs : Text) :
    scan? .code d ('}' :: cs) = (scan? .code (d - 1) cs).map (· + 1) := by
  simp [scan?, Mode.closes, Mode.depth, Mode.isCode, Mode.next, Mode.afterCode, backtick, h]

theorem scan?_other (h₁ : ∀ r, c = '/' → cs = '/' :: r → False)
    (h₂ : ∀ r, c = '/' → cs = '*' :: r → False) (hraw : c ≠ backtick)
    (hquote : ¬ (c = '"' ∨ c = '\'')) (hopen : c ≠ '{') (hclose : c ≠ '}') :
    scan? .code d (c :: cs) = (scan? .code d cs).map (· + 1) := by
  have hnext : scan? (Mode.afterCode c) d cs = scan? .code d cs := by
    by_cases hc : c = '/'
    · subst hc
      apply scan?_slash_of_head?_ne <;> cases cs <;> simp_all
    · simp only [Mode.afterCode, if_neg hraw, if_neg hquote, if_neg hc]
  simp [scan?, Mode.closes, Mode.depth, Mode.isCode, Mode.next, hopen, hclose, hnext]

/-- The jumping search and the walk through the characters find the same brace. -/
theorem closeFrom?_eq_scan? (d i : Nat) (cs : Text) :
    closeFrom? d i cs = (scan? .code d cs).map (· + i) := by
  fun_induction closeFrom? d i cs with
  | case1 => simp [scan?]
  | case2 d i r n ih =>
    rw [ih, scan?_lineComment, scan?_line]
    simp only [map_add_map_add, Nat.add_assoc, n]
  | case3 d i r hr =>
    rw [scan?_blockComment, scan?_block, hr]
    rfl
  | case4 d i r n hr ih =>
    rw [ih, scan?_blockComment, scan?_block, hr]
    simp only [Option.bind_some, map_add_map_add, Nat.add_assoc]
  | case5 d i r hr =>
    rw [scan?_rawString, scan?_raw, hr]
    rfl
  | case6 d i r n hr _ _ ih =>
    rw [ih, scan?_rawString, scan?_raw, hr]
    simp only [Option.bind_some, map_add_map_add, Nat.add_assoc]
  | case7 d i c r _ _ _ hc n ih =>
    rw [ih, scan?_quote _ _ hc, scan?_quoted]
    simp only [map_add_map_add, Nat.add_assoc, n]
  | case8 d i r _ _ _ _ ih => rw [ih, scan?_open, map_add_map_add]
  | case9 d i r hd => simp [scan?, Mode.closes, Mode.isCode, hd]
  | case10 d i r hd _ _ _ _ _ ih => rw [ih, scan?_close hd, map_add_map_add]
  | case11 d i c r h₁ h₂ hraw hquote hopen hclose ih =>
    rw [ih, scan?_other h₁ h₂ hraw hquote hopen hclose, map_add_map_add]

theorem close?_eq_scan? (t : Text) (start : Nat) :
    close? t start = (scan? .code 1 (t.drop start)).map (· + start) :=
  closeFrom?_eq_scan? 1 start (t.drop start)

/-! ## Locality -/

theorem getElem?_of_scan? (h : scan? m d cs = some n) : cs[n]? = some '}' := by
  induction cs generalizing m d n with
  | nil => simp [scan?] at h
  | cons c cs ih =>
    rw [scan?] at h
    split at h
    · rename_i hc
      simp only [Option.some.injEq] at h
      subst h
      simp_all [Mode.closes]
    · obtain ⟨k, hk, rfl⟩ := Option.map_eq_some_iff.mp h
      simpa using ih hk

/-- A closing brace stands where the search ends. -/
theorem getElem?_of_close? {t : Text} {start : Nat} (h : close? t start = some n) :
    t[n]? = some '}' := by
  rw [close?_eq_scan?] at h
  obtain ⟨k, hk, rfl⟩ := Option.map_eq_some_iff.mp h
  have hbrace := getElem?_of_scan? hk
  rwa [List.getElem?_drop, Nat.add_comm] at hbrace

/-- Text behind the closing brace does not matter. -/
theorem scan?_append_of_lt (h : scan? m d (a ++ b) = some n) (hn : n < a.length) (b' : Text) :
    scan? m d (a ++ b') = some n := by
  induction a generalizing m d n with
  | nil => simp at hn
  | cons c a ih =>
    rw [List.cons_append, scan?] at h ⊢
    split at h
    · rename_i hc
      rw [if_pos hc, ← h]
    · rename_i hc
      obtain ⟨k, hk, rfl⟩ := Option.map_eq_some_iff.mp h
      rw [if_neg hc, ih hk (by simpa using hn)]
      rfl

/-- What a text leaves the scan in, when it does not close the outermost group. -/
def walk (m : Mode) (d : Nat) : Text → Option (Mode × Nat)
  | [] => some (m, d)
  | c :: cs => if m.closes c d then none else walk (m.next c) (m.depth c d) cs

theorem walk_append (m : Mode) (d : Nat) (a b : Text) :
    walk m d (a ++ b) = (walk m d a).bind fun s => walk s.1 s.2 b := by
  induction a generalizing m d with
  | nil => rfl
  | cons c a ih =>
    simp only [List.cons_append, walk]
    split
    · rfl
    · exact ih _ _

theorem scan?_append_of_walk {m' : Mode} {d' : Nat} (h : walk m d a = some (m', d')) (b : Text) :
    scan? m d (a ++ b) = (scan? m' d' b).map (· + a.length) := by
  induction a generalizing m d with
  | nil =>
    obtain ⟨rfl, rfl⟩ : m = m' ∧ d = d' := by simpa [walk] using h
    simp
  | cons c a ih =>
    rw [walk] at h
    split at h
    · simp at h
    · rename_i hc
      rw [List.cons_append, scan?, if_neg hc, ih h, map_add_map_add, List.length_cons, Nat.add_comm]

end TagLint.Brace
