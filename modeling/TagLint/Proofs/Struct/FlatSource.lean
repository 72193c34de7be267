import TagLint.Proofs.Struct.RoundTrip

/-! Documents of flat structs: each field has one name and stands on a line of its own. -/
namespace TagLint.Source
open Text

/-! ## Printing -/

structure FlatField where
  indent : Indent := {}
  name : Word
  pad : Indent := {}
  type : TypeName
  /-- What stands between the backticks, and what stands before them. -/
  tag : Option (Indent × RawTag) := none
  noKeyword : ∀ p ∈ tag, ¬ "struct".toList <:+: p.2.text

def FlatField.decl (f : FlatField) : Decl := .named f.name [] f.pad f.type

def FlatField.ending (f : FlatField) : Ending :=
  match f.tag with
  | none => .empty
  | some (pad, tag) => .tagged pad tag none

def FlatField.line (f : FlatField) : Text := f.indent.text ++ (f.decl.text ++ f.ending.text)

/-- What stands on the line before the tag. -/
def FlatField.code (f : FlatField) : Text :=
  f.indent.text ++ (f.name.text ++ ((' ' :: f.pad.text) ++ f.type.text))

def FlatField.field (f : FlatField) : FieldDecl := ⟨f.name.text, f.type.text, f.ending.tag⟩

/-- No field is named by the start of the name of an earlier one. -/
structure FlatStruct where
  indent : Indent := {}
  name : Word
  fields : List FlatField
  closeIndent : Indent := {}
  apart : fields.Pairwise fun f f' => ¬ f'.name.text <+: f.name.text

def block : List FlatField → Block
  | [] => .nil
  | f :: fs => .line f.indent (.decl f.decl f.ending) (block fs)

def FlatStruct.toStruct (s : FlatStruct) : Struct :=
  ⟨s.indent, s.name, block s.fields, s.closeIndent⟩

def FlatStruct.decl (s : FlatStruct) : StructDecl := ⟨s.name.text, s.fields.map FlatField.field⟩

/-- The header line, up to its brace. -/
def FlatStruct.opening (s : FlatStruct) : Text := s.indent.text ++ s.toStruct.header

/-- Structs with the gaps before them. -/
def printed (structs : List (Gap × FlatStruct)) : Text :=
  structs.flatMap fun (gap, s) => gap.text ++ s.toStruct.text

structure FlatDocument where
  structs : List (Gap × FlatStruct)
  last : Gap
  distinct : structs.Pairwise fun p q => p.2.name.text ≠ q.2.name.text

def FlatDocument.text (d : FlatDocument) : Text := printed d.structs ++ d.last.text

def FlatDocument.decls (d : FlatDocument) : List StructDecl := d.structs.map fun (_, s) => s.decl

/-- The field is declared in the struct on line `n`, behind that many newlines. -/
def FlatDocument.DeclaredOn (d : FlatDocument) (s : FlatStruct) (f : FlatField) (n : Nat) : Prop :=
  ∃ before gap after fs fs', d.structs = before ++ (gap, s) :: after ∧ s.fields = fs ++ f :: fs'
    ∧ n = (printed before
      ++ (gap.text ++ (s.opening ++ '\n' :: unlines (fs.map FlatField.line)))).count '\n'

variable {d : FlatDocument} {s : FlatStruct} {f : FlatField} {fs : List FlatField}
  {xs ys : List (Gap × FlatStruct)} {g : Gap} {t : Text}

/-! ## Reading -/

theorem block_fields (fs : List FlatField) : (block fs).fields = fs.map FlatField.field := by
  induction fs with
  | nil => rfl
  | cons f fs ih => rw [block, Block.fields, ih]; rfl

theorem block_lines (fs : List FlatField) : (block fs).lines = fs.map FlatField.line := by
  induction fs with
  | nil => rfl
  | cons f fs ih => rw [block, Block.lines, ih]; rfl

theorem structs_flat (d : FlatDocument) : structs d.text = d.decls := by
  have hstart : Header.boundary none := rfl
  have h := structsAfter_document hstart (d.structs.map fun (g, s) => (g, s.toStruct)) d.last
  have htext : Document.text ⟨d.structs.map fun (g, s) => (g, s.toStruct), d.last⟩ = d.text := by
    simp only [Document.text, List.flatMap_map, FlatDocument.text, printed]
  have hdecls : Document.decls ⟨d.structs.map fun (g, s) => (g, s.toStruct), d.last⟩ = d.decls := by
    simp only [Document.decls, List.map_map, FlatDocument.decls]
    apply List.map_congr_left
    rintro ⟨g, s⟩ -
    simp only [Function.comp_apply, Struct.decl, FlatStruct.toStruct, block_fields]
    rfl
  rw [htext, hdecls] at h
  exact h

/-! ## Lines -/

theorem FlatField.decl_text (f : FlatField) :
    f.decl.text = f.name.text ++ ((' ' :: f.pad.text) ++ f.type.text) := by
  simp [decl, Decl.text, Decl.names, join]

theorem FlatField.line_of_none (h : f.tag = none) : f.line = f.code := by
  have hending : f.ending.text = [] := by rw [ending, h]; rfl
  rw [line, hending, f.decl_text, List.append_nil, code]

theorem FlatField.line_of_some {pad : Indent} {tag : RawTag} (h : f.tag = some (pad, tag)) :
    f.line = (f.code ++ pad.text) ++ backtick :: (tag.text ++ [backtick]) := by
  have hending : f.ending.text = pad.text ++ backtick :: (tag.text ++ [backtick]) := by
    rw [ending, h]
    simp [Ending.text, noteText]
  rw [line, hending, f.decl_text, code]
  simp

theorem printed_append (xs ys : List (Gap × FlatStruct)) :
    printed (xs ++ ys) = printed xs ++ printed ys :=
  List.flatMap_append

theorem FlatStruct.text_eq (s : FlatStruct) :
    s.toStruct.text
      = s.opening ++ '\n' :: (unlines (s.fields.map FlatField.line)
        ++ (s.closeIndent.text ++ ['}'])) := by
  simp [Struct.text, Struct.inside, opening, toStruct, block_lines]

/-- The header line before its brace. -/
def FlatStruct.stem (s : FlatStruct) : Text :=
  s.indent.text
    ++ ("type".toList ++ ([' '] ++ (s.name.text ++ ([' '] ++ ("struct".toList ++ [' '])))))

theorem FlatStruct.opening_eq (s : FlatStruct) : s.opening = s.stem ++ ['{'] := by
  have hheader : s.toStruct.header
      = ("type".toList ++ [' ']) ++ s.name.text ++ ([' '] ++ ("struct".toList ++ [' ']) ++ ['{']) :=
        rfl
  rw [opening, stem, hheader]
  simp only [List.append_assoc]

theorem FlatStruct.brace_not_mem_stem (s : FlatStruct) : '{' ∉ s.stem := by
  have hindent : '{' ∉ s.indent.text := not_mem_of_class s.indent.isBlank (by decide)
  have hname : '{' ∉ s.name.text := not_mem_of_class s.name.isWord (by decide)
  simp [stem, hindent, hname]

theorem FlatStruct.newline_not_mem_stem (s : FlatStruct) : '\n' ∉ s.stem := by
  have hname : '\n' ∉ s.name.text := not_mem_of_class s.name.isWord (by decide)
  simp [stem, newline_not_mem_indent, hname]

/-- The text from a struct on. -/
theorem FlatDocument.text_split (h : d.structs = xs ++ (g, s) :: ys) :
    ∃ rest, d.text = (printed xs ++ g.text) ++ (s.opening
      ++ '\n' :: (unlines (s.fields.map FlatField.line)
        ++ (s.closeIndent.text ++ '}' :: rest))) := by
  refine ⟨printed ys ++ d.last.text, ?_⟩
  have hcons : printed ((g, s) :: ys) = g.text ++ s.toStruct.text ++ printed ys := rfl
  rw [FlatDocument.text, h, printed_append, hcons, s.text_eq]
  simp

theorem count_unlines {ls : List Text} (hls : ∀ l ∈ ls, '\n' ∉ l) :
    (unlines ls).count '\n' = ls.length := by
  induction ls with
  | nil => rfl
  | cons l ls ih =>
    obtain ⟨hl, hls⟩ := List.forall_mem_cons.mp hls
    rw [unlines_cons, List.count_append, List.count_append, List.count_eq_zero_of_not_mem hl,
      ih hls]
    simp [Nat.add_comm]

/-- Every text is made of whole lines and a line that is not ended. -/
theorem exists_unlines_append (t : Text) :
    ∃ ls p, (∀ l ∈ ls, '\n' ∉ l) ∧ '\n' ∉ p ∧ t = unlines ls ++ p := by
  induction t with
  | nil => exact ⟨[], [], by simp, by simp, rfl⟩
  | cons c t ih =>
    obtain ⟨ls, p, hls, hp, rfl⟩ := ih
    by_cases hc : c = '\n'
    · subst hc
      exact ⟨[] :: ls, p, List.forall_mem_cons.mpr ⟨by simp, hls⟩, hp, rfl⟩
    · cases ls with
      | nil => exact ⟨[], c :: p, by simp, by simp [hp, Ne.symm hc], rfl⟩
      | cons l ls =>
        obtain ⟨hl, hls⟩ := List.forall_mem_cons.mp hls
        exact ⟨(c :: l) :: ls, p, List.forall_mem_cons.mpr ⟨by simp [hl, Ne.symm hc], hls⟩, hp, rfl⟩

/-- A text that ends its last line is made of whole lines. -/
theorem exists_unlines (h : t = [] ∨ t.getLast? = some '\n') :
    ∃ ls, (∀ l ∈ ls, '\n' ∉ l) ∧ t = unlines ls := by
  rcases h with rfl | hlast
  · exact ⟨[], by simp, rfl⟩
  · obtain ⟨ls, p, hls, hp, rfl⟩ := exists_unlines_append t
    refine ⟨ls, hls, ?_⟩
    -- What is not ended holds no newline, and the text ends in one.
    rw [List.getLast?_append] at hlast
    cases hend : p.getLast? with
    | none => rw [List.getLast?_eq_none_iff.mp hend, List.append_nil]
    | some c =>
      rw [hend] at hlast
      obtain rfl : c = '\n' := Option.some.inj hlast
      exact absurd (List.mem_of_getLast? hend) hp

theorem newline_not_mem_flatLines (fs : List FlatField) :
    ∀ l ∈ fs.map FlatField.line, '\n' ∉ l := by
  rw [← block_lines]
  exact newline_not_mem_lines (block fs)

/-- Between a header and a field stand the lines of the fields before it. -/
theorem count_before_field (xs : List (Gap × FlatStruct)) (g : Gap) (s : FlatStruct)
    (fs : List FlatField) :
    (printed xs ++ (g.text ++ (s.opening ++ '\n' :: unlines (fs.map FlatField.line)))).count '\n'
      = (printed xs ++ g.text).count '\n' + 1 + fs.length := by
  have hopening : s.opening.count '\n' = 0 := by
    rw [List.count_eq_zero, s.opening_eq]
    simp [s.newline_not_mem_stem]
  simp only [List.count_append, List.count_cons_self, hopening,
    count_unlines (newline_not_mem_flatLines fs), List.length_map]
  omega

/-- A header starts its line, or stands behind a closing brace. -/
theorem exists_lines_before (xs : List (Gap × FlatStruct)) (g : Gap) :
    ∃ ls p, (∀ l ∈ ls, '\n' ∉ l) ∧ printed xs ++ g.text = unlines ls ++ p
      ∧ (p = [] ∨ ∃ i : Indent, p = i.text ++ ['}']) := by
  rcases g.endsLine with hnil | hlast
  · rcases List.eq_nil_or_concat xs with rfl | ⟨xs, ⟨g', s⟩, rfl⟩
    · exact ⟨[], [], by simp, by rw [hnil]; rfl, .inl rfl⟩
    · obtain ⟨ls, p, hls, hp, hsplit⟩ :=
        exists_unlines_append (printed xs ++ (g'.text ++ s.opening))
      refine ⟨ls ++ p :: s.fields.map FlatField.line, s.closeIndent.text ++ ['}'], ?_, ?_,
        .inr ⟨_, rfl⟩⟩
      · rw [List.forall_mem_append, List.forall_mem_cons]
        exact ⟨hls, hp, newline_not_mem_flatLines s.fields⟩
      · have hone : printed [(g', s)] = g'.text ++ s.toStruct.text := List.append_nil _
        have htail := congrArg (· ++ ('\n' :: (unlines (s.fields.map FlatField.line)
          ++ (s.closeIndent.text ++ ['}'])))) hsplit
        rw [hnil, List.concat_eq_append, printed_append, hone, s.text_eq, unlines_append,
          unlines_cons]
        simpa using htail
  · obtain ⟨ls, hls, hsplit⟩ := exists_unlines (t := printed xs ++ g.text)
      (.inr (by rw [List.getLast?_append, hlast]; rfl))
    exact ⟨ls, [], hls, by rw [hsplit, List.append_nil], .inl rfl⟩

end TagLint.Source
