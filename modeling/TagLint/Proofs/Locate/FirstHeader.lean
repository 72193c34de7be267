import TagLint.Proofs.Locate.Header
import TagLint.Proofs.Struct.FlatSource
import TagLint.Proofs.Text.Words

/-! The first header for a name in a document of flat structs is the struct's own. -/
namespace TagLint.Locate
open Text Source

variable {name : Word} {l s t u : Text} {c : Char} {ls : List Text} {previous : Option Char}

/-! ## Texts without a header for a name -/

/-- A header on one line, up to its last keyword. -/
inductive Heading (name : Word) : Text → Prop where
  | mk {b₁ b₂ : Text} (hne₁ : b₁ ≠ []) (hne₂ : b₂ ≠ []) (h₁ : ∀ c ∈ b₁, isBlank c ∧ c ≠ '\n')
      (h₂ : ∀ c ∈ b₂, isBlank c ∧ c ≠ '\n') :
      Heading name ("type".toList ++ (b₁ ++ (name.text ++ (b₂ ++ "struct".toList))))

/-- No line of the text holds a header for the name. -/
def Clear (name : Word) (t : Text) : Prop := ∀ u, Heading name u → ¬ u <:+: t

theorem Clear.of_infix (h : Clear name t) (hs : s <:+: t) : Clear name s :=
  fun u hu hin => h u hu (hin.trans hs)

/-- The characters that no header holds. -/
def isStop (c : Char) : Bool := !isWord c && (!isBlank c || c == '\n')

theorem Heading.not_mem (h : Heading name u) (hc : isStop c) : c ∉ u := by
  obtain ⟨-, -, h₁, h₂⟩ := h
  have hblank : ∀ {b : Text}, (∀ c ∈ b, isBlank c ∧ c ≠ '\n') → c ∉ b := by
    intro b hb hm
    obtain ⟨hcb, hcn⟩ := hb c hm
    simp [isStop, hcb, hcn] at hc
  have hword : ∀ {w : Text}, (∀ c ∈ w, isWord c) → c ∉ w := by
    intro w hw hm
    simp [isStop, hw c hm] at hc
  have htype : c ∉ "type".toList := hword (by decide)
  have hstruct : c ∉ "struct".toList := hword (by decide)
  simp only [List.mem_append, not_or]
  exact ⟨htype, hblank h₁, hword name.isWord, hblank h₂, hstruct⟩

/-- A header does not go across such a character. -/
theorem clear_append_cons_iff (hc : isStop c) :
    Clear name (s ++ c :: t) ↔ Clear name s ∧ Clear name t := by
  constructor
  · intro h
    exact ⟨h.of_infix (List.prefix_append s _).isInfix,
      h.of_infix ((List.suffix_cons c t).trans (List.suffix_append s _)).isInfix⟩
  · rintro ⟨hs, ht⟩ u hu hin
    rcases (infix_append_cons_iff (hu.not_mem hc)).mp hin with hin | hin
    · exact hs u hu hin
    · exact ht u hu hin

theorem clear_of_noType (h : ¬ "type".toList <:+: t) : Clear name t := by
  rintro u ⟨-, -, -, -⟩ hin
  exact h ((List.prefix_append _ _).isInfix.trans hin)

theorem clear_of_noStruct (h : ¬ "struct".toList <:+: t) : Clear name t := by
  rintro u ⟨-, -, -, -⟩ hin
  rename_i b₁ b₂
  refine h (List.IsInfix.trans ⟨"type".toList ++ (b₁ ++ (name.text ++ b₂)), [], ?_⟩ hin)
  simp

theorem words_word (w : Word) : words w.text = [w.text] :=
  words_of_not_blank w.ne_nil fun c hc => isBlank_eq_false_of_isWord (w.isWord c hc)

/-- A header gives its name a word before and a word behind it. -/
theorem clear_of_words (h : name.text ∉ (words t).tail.dropLast) : Clear name t := by
  rintro u ⟨hne₁, hne₂, h₁, h₂⟩ ⟨x, y, rfl⟩
  rename_i b₁ b₂
  have hsplit : x ++ ("type".toList ++ (b₁ ++ (name.text ++ (b₂ ++ "struct".toList)))) ++ y
      = (x ++ "type".toList) ++ (b₁ ++ (name.text ++ (b₂ ++ ("struct".toList ++ y)))) := by
    simp
  have hbefore : words (x ++ "type".toList) ≠ [] := words_ne_nil (c := 't') (by simp) (by decide)
  have hbehind : words ("struct".toList ++ y) ≠ [] := words_ne_nil (c := 's') (by simp) (by decide)
  obtain ⟨w, ws, hws⟩ := List.exists_cons_of_ne_nil hbefore
  apply h
  rw [hsplit, words_append_of_blank hne₁ (fun c hc => (h₁ c hc).1),
    words_append_of_blank hne₂ (fun c hc => (h₂ c hc).1), words_word, hws, List.cons_append,
    List.tail_cons,
    List.dropLast_append_of_ne_nil (by simp), List.singleton_append,
    List.dropLast_cons_of_ne_nil hbehind]
  simp

/-! ## Printed texts -/

variable {st : FlatStruct} {d : FlatDocument} {xs ys : List (Gap × FlatStruct)} {g : Gap}

theorem words_code (f : FlatField) : words f.code = [f.name.text, f.type.text] := by
  have hpad : ∀ c ∈ ' ' :: f.pad.text, isBlank c :=
    List.forall_mem_cons.mpr ⟨by decide, f.pad.isBlank⟩
  rw [FlatField.code, words_blank_append f.indent.isBlank, words_append_of_blank (by simp) hpad,
    words_word, words_of_not_blank f.type.ne_nil fun c hc =>
      isTypeChar_isBlank (f.type.isTypeChar c hc)]
  rfl

theorem clear_line (name : Word) (f : FlatField) : Clear name f.line := by
  cases htag : f.tag with
  | none =>
    rw [f.line_of_none htag]
    exact clear_of_words (by simp [words_code])
  | some p =>
    obtain ⟨pad, tag⟩ := p
    have hcode : words (f.code ++ pad.text) = [f.name.text, f.type.text] := by
      rw [words_append_blank pad.isBlank, words_code]
    rw [f.line_of_some htag, clear_append_cons_iff (by decide), clear_append_cons_iff (by decide)]
    refine ⟨clear_of_words (by simp [hcode]), clear_of_noStruct (f.noKeyword _ htag), ?_⟩
    exact clear_of_noType (by simp)

theorem clear_opening (hst : st.name.text ≠ name.text) : Clear name st.opening := by
  rw [st.opening_eq, clear_append_cons_iff (by decide)]
  refine ⟨clear_of_words ?_, clear_of_noType (by simp)⟩
  have htype : words "type".toList = ["type".toList] := words_of_not_blank (by decide) (by decide)
  have hstruct : words "struct".toList = ["struct".toList] :=
    words_of_not_blank (by decide) (by decide)
  rw [FlatStruct.stem, words_blank_append st.indent.isBlank,
    words_append_of_blank (by decide) (by decide), words_append_of_blank (by decide) (by decide),
    words_append_blank (by decide), words_word, htype, hstruct]
  simpa using Ne.symm hst

theorem clear_unlines (hls : ∀ l ∈ ls, Clear name l) (ht : Clear name t) :
    Clear name (unlines ls ++ t) := by
  induction ls with
  | nil => exact ht
  | cons l ls ih =>
    obtain ⟨hl, hls⟩ := List.forall_mem_cons.mp hls
    rw [unlines_cons_append, clear_append_cons_iff (by decide)]
    exact ⟨hl, ih hls⟩

theorem clear_gap (g : Gap) (ht : Clear name t) : Clear name (g.text ++ t) := by
  rcases g.endsLine with hnil | hlast
  · rwa [hnil]
  · obtain ⟨r, hr⟩ := List.getLast?_eq_some_iff.mp hlast
    have hclear : Clear name g.text := clear_of_noType g.noKeyword
    rw [hr] at hclear ⊢
    rw [← List.append_cons, clear_append_cons_iff (by decide)]
    exact ⟨hclear.of_infix (List.prefix_append r _).isInfix, ht⟩

theorem clear_indent (i : Indent) : Clear name i.text := by
  apply clear_of_noType
  intro hin
  have hblank := i.isBlank 't' (hin.subset (by simp))
  exact absurd hblank (by decide)

theorem clear_struct (hst : st.name.text ≠ name.text) (ht : Clear name t) :
    Clear name (st.toStruct.text ++ t) := by
  have hsplit : st.toStruct.text ++ t
      = st.opening ++ '\n' :: (unlines (st.fields.map FlatField.line)
        ++ (st.closeIndent.text ++ '}' :: t)) := by
    rw [st.text_eq]
    simp
  rw [hsplit, clear_append_cons_iff (by decide)]
  refine ⟨clear_opening hst, clear_unlines ?_ ?_⟩
  · intro l hl
    obtain ⟨f, -, rfl⟩ := List.mem_map.mp hl
    exact clear_line name f
  · rw [clear_append_cons_iff (by decide)]
    exact ⟨clear_indent st.closeIndent, ht⟩

/-- Structs of other names hold no header for the name. -/
theorem clear_printed (hxs : ∀ p ∈ xs, p.2.name.text ≠ name.text) (ht : Clear name t) :
    Clear name (printed xs ++ t) := by
  induction xs with
  | nil => exact ht
  | cons p xs ih =>
    obtain ⟨g, st⟩ := p
    obtain ⟨hst, hxs⟩ := List.forall_mem_cons.mp hxs
    have hsplit : printed ((g, st) :: xs) ++ t
        = g.text ++ (st.toStruct.text ++ (printed xs ++ t)) := by
      simp [printed]
    rw [hsplit]
    exact clear_gap g (clear_struct hst (ih hxs))

/-- No header for a struct's name stands before the struct. -/
theorem clear_before (h : d.structs = xs ++ (g, st) :: ys) :
    Clear st.name (printed xs ++ g.text) := by
  have hdistinct := d.distinct
  rw [h, List.pairwise_append] at hdistinct
  obtain ⟨-, -, hdistinct⟩ := hdistinct
  exact clear_printed (fun p hp => hdistinct p hp (g, st) List.mem_cons_self)
    (clear_of_noType g.noKeyword)

/-! ## The header line -/

/-- On one line, a header starts with a heading. -/
theorem Headed.exists_heading (h : Headed name.text t) (ht : '\n' ∉ t) :
    ∃ u, Heading name u ∧ u <+: t := by
  obtain ⟨hne₁, hne₂, h₁, h₂, -⟩ := h
  rename_i b₁ b₂ r
  simp only [List.mem_append, not_or] at ht
  obtain ⟨-, hb₁, -, hb₂, -⟩ := ht
  exact ⟨_, .mk hne₁ hne₂ (fun c hc => ⟨h₁ c hc, ne_of_mem_of_not_mem hc hb₁⟩)
    (fun c hc => ⟨h₂ c hc, ne_of_mem_of_not_mem hc hb₂⟩), r, by simp⟩

theorem headerColumn?_of_clear (h : Clear name l) (hl : '\n' ∉ l) (previous : Option Char) :
    headerColumn? name.text previous l = none := by
  cases hcolumn : headerColumn? name.text previous l with
  | none => rfl
  | some n =>
    have hsuffix := List.drop_suffix n l
    obtain ⟨u, hu, hstarts⟩ :=
      (headed_of_headerColumn? hcolumn).exists_heading fun hc => hl (hsuffix.subset hc)
    exact absurd (hstarts.isInfix.trans hsuffix.isInfix) (h u hu)

/-- Where a header stands, a column is found. -/
theorem isSome_headerColumn? (hp : Header.boundary (s.getLast?.or previous))
    (h : Headed name.text t) :
    (headerColumn? name.text previous (s ++ t)).isSome := by
  induction s generalizing previous with
  | nil =>
    have hhere := headed_iff.mpr h
    cases t with
    | nil => nomatch h
    | cons c t =>
      have hboundary : Header.boundary previous := hp
      rw [List.nil_append, headerColumn?, hboundary, hhere]
      rfl
  | cons c s ih =>
    rw [List.cons_append, headerColumn?]
    split
    · rfl
    · rw [Option.isSome_map]
      apply ih
      cases hlast : s.getLast? <;> simpa [List.getLast?_cons, hlast] using hp

theorem structLine?_append {column : Nat} (hls : ∀ l ∈ ls, headerColumn? name.text none l = none)
    (hl : headerColumn? name.text none l = some column) (ls' : List Text) :
    structLine? name.text (ls ++ l :: ls')
      = some (ls.length, (findFrom? name.text (column + 4) l).getD 0) := by
  induction ls with
  | nil => 
    rw [List.nil_append, structLine?, hl]
    rfl
  | cons l' ls ih =>
    obtain ⟨hl', hls⟩ := List.forall_mem_cons.mp hls
    rw [List.cons_append, structLine?, hl', ih hls]
    rfl

/-- A header stands behind what ends no word. -/
theorem isSome_headerColumn?_opening (st : FlatStruct) {p : Text}
    (hp : Header.boundary (p.getLast?)) :
    (headerColumn? st.name.text none (p ++ st.opening)).isSome := by
  have hsplit : p ++ st.opening = (p ++ st.indent.text)
      ++ ("type".toList
        ++ ([' '] ++ (st.name.text ++ ([' '] ++ ("struct".toList ++ [' ', '{']))))) := by
    rw [st.opening_eq, FlatStruct.stem]
    simp only [List.append_assoc]
    rfl
  rw [hsplit]
  refine isSome_headerColumn? ?_ (.mk (by simp) (by simp) (by decide) (by decide) (by decide))
  rw [List.getLast?_append, Option.or_none]
  cases hlast : st.indent.text.getLast? with
  | none => exact hp
  | some c =>
    have hblank := st.indent.isBlank c (List.mem_of_getLast? hlast)
    simp [Header.boundary, isWord_eq_false_of_isBlank hblank]

/-- The header is found on its line, when no line above holds one. -/
theorem structLine?_opening (st : FlatStruct) {p : Text} (hls : ∀ l ∈ ls, '\n' ∉ l)
    (hclear : ∀ l ∈ ls, Clear st.name l) (hp : Header.boundary p.getLast?) (hnewline : '\n' ∉ p)
    (rest : Text) :
    lines (unlines ls ++ (p ++ (st.opening ++ '\n' :: rest)))
      = ls ++ (p ++ st.opening) :: lines rest
      ∧ ∃ column, structLine? st.name.text (ls ++ (p ++ st.opening) :: lines rest)
        = some (ls.length, column) := by
  constructor
  · have hheader : '\n' ∉ p ++ st.opening := by
      simp [st.opening_eq, st.newline_not_mem_stem, hnewline]
    have hall : ∀ l ∈ ls ++ [p ++ st.opening], '\n' ∉ l := by
      rw [List.forall_mem_append, List.forall_mem_singleton]
      exact ⟨hls, hheader⟩
    simpa using lines_unlines hall rest
  · obtain ⟨column, hcolumn⟩ := Option.isSome_iff_exists.mp (isSome_headerColumn?_opening st hp)
    have hnone : ∀ l ∈ ls, headerColumn? st.name.text none l = none :=
      fun l hl => headerColumn?_of_clear (hclear l hl) (hls l hl) none
    exact ⟨_, structLine?_append hnone hcolumn _⟩

theorem clear_of_mem_lines {ls : List Text} (h : Clear name (unlines ls ++ t)) (hl : l ∈ ls) :
    Clear name l := by
  obtain ⟨ls₁, ls₂, rfl⟩ := List.append_of_mem hl
  exact h.of_infix ⟨unlines ls₁, '\n' :: unlines ls₂ ++ t, by simp⟩

/-- The header of a struct is found on line `n`, the line ends in the header's brace, and the lines
below it are those of the fields. -/
structure HeaderOn (d : FlatDocument) (st : FlatStruct) (n : Nat) : Prop where
  found : ∃ column, structLine? st.name.text (lines d.text) = some (n, column)
  below : ∃ p more, (lines d.text).drop n = (p ++ ['{']) :: (st.fields.map FlatField.line ++ more)
    ∧ '{' ∉ p

/-- The only line that a struct's header stands on is its own. -/
theorem headerOn (h : d.structs = xs ++ (g, st) :: ys) :
    HeaderOn d st ((printed xs ++ g.text).count '\n') := by
  obtain ⟨rest, htext⟩ := FlatDocument.text_split h
  obtain ⟨ls, p, hls, hbefore, hp⟩ := exists_lines_before xs g
  have hclear : ∀ l ∈ ls, Clear st.name l := by
    have hall := clear_before h
    rw [hbefore] at hall
    exact fun l hl => clear_of_mem_lines hall hl
  have hends : Header.boundary p.getLast? ∧ '{' ∉ p ∧ '\n' ∉ p := by
    rcases hp with rfl | ⟨i, rfl⟩
    · exact ⟨rfl, List.not_mem_nil, List.not_mem_nil⟩
    · have hindent : '{' ∉ i.text := not_mem_of_class i.isBlank (by decide)
      refine ⟨?_, ?_, ?_⟩
      · rw [List.getLast?_concat]
        decide
      · simp [hindent]
      · simp [newline_not_mem_indent]
  obtain ⟨hboundary, hbrace, hnewline⟩ := hends
  have hfields :=
    lines_unlines (newline_not_mem_flatLines st.fields) (st.closeIndent.text ++ '}' :: rest)
  obtain ⟨hlines, column, hfound⟩ := structLine?_opening st hls hclear hboundary hnewline
    (unlines (st.fields.map FlatField.line) ++ (st.closeIndent.text ++ '}' :: rest))
  rw [← List.append_assoc, ← hbefore, ← htext, hfields] at hlines
  rw [hfields, ← hlines] at hfound
  have hcount : (printed xs ++ g.text).count '\n' = ls.length := by
    rw [hbefore, List.count_append, count_unlines hls, List.count_eq_zero_of_not_mem hnewline,
      Nat.add_zero]
  rw [hcount]
  refine ⟨⟨column, hfound⟩, p ++ st.stem, lines (st.closeIndent.text ++ '}' :: rest), ?_, ?_⟩
  · rw [hlines, List.drop_left, st.opening_eq, List.append_assoc]
  · simp [st.brace_not_mem_stem, hbrace]

end TagLint.Locate
