import TagLint.Proofs.Struct.SourceFields

/-! The fields of a printed body. -/
namespace TagLint
open Text

namespace Body

variable {line name closing t : Text} {rest after ls : List Text} {c : Char}

/-! ## Openers -/

/-- An opener is made of words, blanks and a prefix, up to its brace. -/
theorem exists_of_opener? (h : opener? line = some name) :
    ∃ s r, line = s ++ '{' :: r ∧ (∀ c ∈ s, isWord c ∨ isBlank c ∨ c ∈ "[]*".toList)
      ∧ ∀ c ∈ r, isBlank c := by
  simp only [opener?, Option.bind_eq_bind, Option.bind_eq_some_iff] at h
  obtain ⟨k, hk, t, ht, h⟩ := h
  obtain ⟨b, -, hb, -, hdrop⟩ := afterBlanks?_eq_some_iff.mp hk
  obtain ⟨b', hb', hsplit⟩ := exists_eq_append_trimLeft t
  have hkind : ∃ p : Text, (∀ c ∈ p, c ∈ "[]*".toList) ∧ k = p ++ ("struct".toList ++ t) := by
    split at ht
    · exact ⟨"[]*".toList, by decide, by rw [← after?_eq_some_iff.mp ht]; rfl⟩
    · exact ⟨"[]".toList, by decide, by rw [← after?_eq_some_iff.mp ht]; rfl⟩
    · exact ⟨"*".toList, by decide, by rw [← after?_eq_some_iff.mp ht]; rfl⟩
    · exact ⟨[], by decide, by rw [← after?_eq_some_iff.mp ht]; rfl⟩
  obtain ⟨p, hp, hk⟩ := hkind
  split at h
  · rename_i r hr
    have hblank : ∀ c ∈ r, isBlank c := by
      have := (Option.ite_none_right_eq_some.mp h).1.2
      exact fun c hc => List.all_eq_true.mp this c hc
    refine ⟨line.takeWhile isWord ++ b ++ p ++ "struct".toList ++ b', r, ?_, ?_, hblank⟩
    · rw [hr] at hsplit
      have hline := List.takeWhile_append_dropWhile (p := isWord) (l := line)
      rw [hdrop, hk, hsplit] at hline
      simpa using hline.symm
    · intro c hc
      simp only [List.mem_append] at hc
      rcases hc with (((hc | hc) | hc) | hc) | hc
      · exact .inl (List.all_eq_true.mp List.all_takeWhile c hc)
      · exact .inr (.inl (hb c hc))
      · exact .inr (.inr (hp c hc))
      · left
        revert c
        decide
      · exact .inr (.inl (hb' c hc))
  · simp at h

theorem not_mem_opener (ht : ∀ c ∈ t, isWord c ∨ isBlank c ∨ c ∈ "[]*".toList)
    (hc : isWord c = false ∧ isBlank c = false ∧ c ∉ "[]*".toList) : c ∉ t := by
  intro hm
  rcases ht c hm with h | h | h
  · exact absurd (hc.1.symm.trans h) (by decide)
  · exact absurd (hc.2.1.symm.trans h) (by decide)
  · exact hc.2.2 h

/-- Every opener counts as one open brace. -/
theorem delta_of_opener? (h : opener? line = some name) : Brace.delta line = 1 := by
  obtain ⟨s, r, rfl, hs, hr⟩ := exists_of_opener? h
  have hall : ∀ c ∈ r, isWord c ∨ isBlank c ∨ c ∈ "[]*".toList := fun c hc => .inr (.inl (hr c hc))
  have hback : backtick ∉ s ++ '{' :: r := by
    simp [not_mem_opener hs (c := backtick) (by decide),
      not_mem_opener hall (c := backtick) (by decide)]
    decide
  have hslash : '/' ∉ s ++ '{' :: r := by
    simp [not_mem_opener hs (c := '/') (by decide), not_mem_opener hall (c := '/') (by decide)]
  have hone : Brace.balance ['{'] = 1 := rfl
  rw [Brace.delta_eq_balance, Brace.withoutRaw_of_not_mem hback, before_comment_of_not_mem hslash,
    Brace.balance_append, ← List.singleton_append, Brace.balance_append, Brace.balance_of_blank hr,
    Brace.balance_of_not_mem (not_mem_opener hs (by decide)) (not_mem_opener hs (by decide)), hone]
  rfl

/-! ## Lines -/

@[simp] theorem fieldsOfLines_nil : fieldsOfLines [] = [] := by
  rw [fieldsOfLines]

theorem fieldsOfLines_of_none (h : opener? line = none) :
    fieldsOfLines (line :: rest) = FieldLine.fields line ++ fieldsOfLines rest := by
  rw [fieldsOfLines, h]

theorem fieldsOfLines_of_group (h : opener? line = some name)
    (hgroup : group 1 rest = (ls, some (closing, after))) :
    fieldsOfLines (line :: rest)
      = fieldsOfLines ls
        ++ (closer? closing).toList.map (fun tag => (⟨name, "struct".toList, tag⟩ : FieldDecl))
        ++ fieldsOfLines after := by
  rw [fieldsOfLines, h]
  simp only
  split
  · rename_i hnone
    rw [hgroup] at hnone
    simp at hnone
  · rename_i closing' after' hsome
    rw [hgroup] at hsome ⊢
    obtain ⟨rfl, rfl⟩ : closing = closing' ∧ after = after' := by simpa using hsome
    rfl

end Body

namespace Source

variable {d : Int}

/-! ## Contents -/

theorem opener?_opener (name : Word) (shape : Shape) :
    Body.opener? (opener name shape) = some name.text := by
  have hopener :
      opener name shape = name.text ++ ([' '] ++ (shape.text ++ "struct \x7b".toList)) := by
    simp [opener]
  have hstop : ∀ c ∈ ([' '] ++ (shape.text ++ "struct \x7b".toList)).head?, isWord c = false := by
    simp; decide
  have hkind : ∀ c ∈ (shape.text ++ "struct \x7b".toList).head?, isBlank c = false := by
    cases shape <;> decide
  rw [hopener, Body.opener?, takeWhile_append_of_stop name.isWord hstop,
    dropWhile_append_of_stop name.isWord hstop, afterBlanks?_append (by simp) (by decide) hkind]
  cases shape <;> exact if_pos ⟨name.ne_nil, rfl⟩

theorem closer?_closer (e : Ending) : Body.closer? ('}' :: e.text) = some e.tag := by
  rw [Body.closer?, e.getD_tag?]

/-- A declaration opens no group. -/
theorem opener?_decl (d : Decl) (e : Ending) : Body.opener? (d.text ++ e.text) = none := by
  cases h : Body.opener? (d.text ++ e.text) with
  | none => rfl
  | some name =>
    have hone := Body.delta_of_opener? h
    rw [delta_line d.solid.plain, d.balance_text] at hone
    exact absurd hone (by decide)

def Line.contents : Line → List Text
  | decl d e => [d.text ++ e.trimmed.text]
  | _ => []

/-- The lines of a body that say something, trimmed. -/
def Block.contents : Block → List Text
  | nil => []
  | line _ l rest => l.contents ++ rest.contents
  | group _ name shape inner _ e rest =>
    opener name shape :: inner.contents ++ ('}' :: e.trimmed.text) :: rest.contents

theorem isContent_of_solid {s : Text} (hs : Solid s) (t : Text) : Body.isContent (s ++ t) := by
  obtain ⟨c, s, rfl⟩ := List.exists_cons_of_ne_nil hs.ne_nil
  have hc : '/' ≠ c := by
    rintro rfl
    exact absurd (hs.plain '/' List.mem_cons_self) (by decide)
  simp [Body.isContent, List.isPrefixOf, hc]

theorem trim_blank (i : Indent) : trim i.text = [] := by
  rw [trim, trimLeft_eq_nil i.isBlank]
  rfl

theorem trim_opener (i : Indent) (name : Word) (shape : Shape) :
    trim (i.text ++ opener name shape) = opener name shape := by
  simpa using trim_line i (opener_solid name shape) .empty

theorem contents_line (i : Indent) (l : Line) :
    [trim (i.text ++ l.text)].filter Body.isContent = l.contents := by
  cases l with
  | blank =>
    rw [Line.text, List.append_nil, trim_blank]
    rfl
  | comment note =>
    have hslashes : ∀ c ∈ "//".toList.getLast?, isBlank c = false := by decide
    rw [Line.text, trim_append i.isBlank (by decide) (by decide) hslashes]
    rfl
  | decl d e =>
    rw [Line.text, trim_line i d.solid]
    simp [isContent_of_solid d.solid, Line.contents]

theorem filter_lines (b : Block) :
    (b.lines.map trim).filter Body.isContent = b.contents := by
  induction b with
  | nil => rfl
  | line i l rest ih =>
    have h := contents_line i l
    rw [Block.lines, List.map_cons, ← List.singleton_append, List.filter_append, h, ih]
    rfl
  | group i name shape inner j e rest ihInner ihRest =>
    have hopen := isContent_of_solid (opener_solid name shape) []
    have hclose := isContent_of_solid closer_solid e.trimmed.text
    have htrim := trim_line j closer_solid e
    rw [List.append_nil] at hopen
    rw [List.singleton_append, List.singleton_append] at htrim
    rw [List.singleton_append] at hclose
    simp only [Block.lines, List.map_cons, List.map_append, List.filter_append, List.cons_append,
      trim_opener, htrim, List.filter_cons, hopen, hclose, if_true, ihInner, ihRest, Block.contents]

/-! ## Groups -/

theorem delta_opener (name : Word) (shape : Shape) : Brace.delta (opener name shape) = 1 :=
  Body.delta_of_opener? (opener?_opener name shape)

theorem delta_closer (e : Ending) : Brace.delta ('}' :: e.text) = -1 :=
  delta_line closer_solid.plain e

theorem delta_decl (d : Decl) (e : Ending) : Brace.delta (d.text ++ e.text) = 0 := by
  rw [delta_line d.solid.plain, d.balance_text]

/-- The end of a group is not among the lines of a whole body. -/
theorem group_contents (b : Block) (hd : 0 < d) (ls : List Text) :
    Body.group d (b.contents ++ ls)
      = (b.contents ++ (Body.group d ls).1, (Body.group d ls).2) := by
  induction b generalizing d ls with
  | nil => rfl
  | line i l rest ih =>
    cases l with
    | blank => exact ih hd ls
    | comment note => exact ih hd ls
    | decl decl e =>
      simp only [Block.contents, Line.contents, List.cons_append, List.nil_append,
        Body.group, delta_decl, Int.add_zero, if_pos hd, ih hd]
  | group i name shape inner j e rest ihInner ihRest =>
    have hopen : 0 < d + 1 := by omega
    have hclose : d + 1 + -1 = d := by omega
    simp only [Block.contents, List.cons_append, List.append_assoc, Body.group, delta_opener,
      delta_closer, hclose, if_pos hd, if_pos hopen, ihInner hopen, ihRest hd]

/-- The fields of a body are read before those of the lines that follow it. -/
theorem fieldsOfLines_contents (b : Block) (ls : List Text) :
    Body.fieldsOfLines (b.contents ++ ls) = b.fields ++ Body.fieldsOfLines ls := by
  induction b generalizing ls with
  | nil => rfl
  | line i l rest ih =>
    cases l with
    | blank => exact ih ls
    | comment note => exact ih ls
    | decl decl e =>
      rw [Block.contents, Line.contents, List.cons_append, List.cons_append, List.nil_append,
        Body.fieldsOfLines_of_none (opener?_decl decl e.trimmed), fields_printed, ih]
      simp [Block.fields, Line.fields]
  | group i name shape inner j e rest ihInner ihRest =>
    have hgroup : Body.group 1 (inner.contents ++ ('}' :: e.trimmed.text) :: (rest.contents ++ ls))
        = (inner.contents, some ('}' :: e.trimmed.text, rest.contents ++ ls)) := by
      rw [group_contents inner Int.one_pos]
      simp [Body.group, delta_closer]
    have hinner := ihInner []
    rw [List.append_nil] at hinner
    rw [Block.contents, List.cons_append, List.cons_append, List.append_assoc, List.cons_append,
      Body.fieldsOfLines_of_group (opener?_opener name shape) hgroup, closer?_closer, ihRest,
      hinner]
    simp [Block.fields]

/-! ## Text of a body -/

theorem newline_not_mem_indent (i : Indent) : '\n' ∉ i.text :=
  not_mem_of_class i.isPlain (by decide)

theorem newline_not_mem_noteText (note : Option Note) : '\n' ∉ noteText note := by
  cases note with
  | none => exact List.not_mem_nil
  | some n => simp [noteText, n.newline]

theorem newline_not_mem_ending (e : Ending) : '\n' ∉ e.text := by
  cases e with
  | bare note h => exact newline_not_mem_noteText note
  | tagged pad tag note =>
    simp only [Ending.text, List.mem_append, List.mem_cons]
    rintro ((hc | hc | hc) | hc | hc)
    · exact newline_not_mem_indent pad hc
    · exact absurd hc (by decide)
    · exact tag.newline hc
    · exact absurd hc (by decide)
    · exact newline_not_mem_noteText note hc

theorem newline_not_mem_solid {s : Text} (i : Indent) (hs : Solid s) (e : Ending) :
    '\n' ∉ i.text ++ (s ++ e.text) := by
  have hline : '\n' ∉ s := not_mem_of_class hs.plain (by decide)
  simp [newline_not_mem_indent, newline_not_mem_ending, hline]

theorem newline_not_mem_lines (b : Block) : ∀ l ∈ b.lines, '\n' ∉ l := by
  induction b with
  | nil => simp [Block.lines]
  | line i l rest ih =>
    rw [Block.lines, List.forall_mem_cons]
    refine ⟨?_, ih⟩
    cases l with
    | blank => simp [Line.text, newline_not_mem_indent]
    | comment note => simp [Line.text, newline_not_mem_indent, note.newline]
    | decl d e => exact newline_not_mem_solid i d.solid e
  | group i name shape inner j e rest ihInner ihRest =>
    rw [Block.lines, List.cons_append, List.forall_mem_cons, List.forall_mem_append,
      List.forall_mem_cons]
    refine ⟨?_, ihInner, newline_not_mem_solid j closer_solid e, ihRest⟩
    simpa using newline_not_mem_solid i (opener_solid name shape) .empty

theorem unlines_cons_append (l : Text) (ls : List Text) (t : Text) :
    unlines (l :: ls) ++ t = l ++ '\n' :: (unlines ls ++ t) := by
  simp [unlines]

theorem lines_unlines {ls : List Text} (hls : ∀ l ∈ ls, '\n' ∉ l) (t : Text) :
    lines (unlines ls ++ t) = ls ++ lines t := by
  induction ls with
  | nil => rfl
  | cons l ls ih =>
    obtain ⟨hl, hls⟩ := List.forall_mem_cons.mp hls
    have ih := ih hls
    simp only [lines] at ih ⊢
    rw [unlines_cons_append, split_append hl, ih]
    rfl

theorem lines_inside (s : Struct) :
    lines s.inside = [] :: s.body.lines ++ [s.closeIndent.text] := by
  have h := lines_unlines (newline_not_mem_lines s.body) s.closeIndent.text
  simp only [lines] at h ⊢
  rw [Struct.inside, List.cons_append, split, if_pos rfl, h,
    split_of_not_mem (newline_not_mem_indent s.closeIndent)]
  rfl

/-- The fields between the braces of a printed struct. -/
theorem fields_inside (s : Struct) : Body.fields s.inside = s.body.fields := by
  have hnil : Body.isContent (trim []) = false := by decide
  have hlast : Body.isContent (trim s.closeIndent.text) = false := by
    rw [trim_blank]
    rfl
  have hcontents := fieldsOfLines_contents s.body []
  rw [List.append_nil, Body.fieldsOfLines_nil, List.append_nil] at hcontents
  rw [Body.fields, lines_inside, List.cons_append, List.map_cons, List.map_append, List.filter_cons,
    hnil, List.filter_append, filter_lines, ← hcontents]
  simp [hlast]

end Source
end TagLint
