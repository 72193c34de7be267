import TagLint.Proofs.Locate.FieldLine
import TagLint.Proofs.Locate.Shown
import TagLint.Proofs.Rule.Anchors

/-! In a document of flat structs, the range of every diagnostic shows its key, in the tag of its
field. -/
namespace TagLint.Locate
open Text Source

variable {a b k s raw line : Text} {d : FlatDocument} {st : FlatStruct} {f : FlatField} {i m : Nat}
  {fs fs' : List FlatField} {xs ys : List (Gap × FlatStruct)} {g : Gap} {x : Diagnostic}

/-! ## Keys of a tag -/

/-- A line that ends in the literal of a tag. -/
def literalLine (s raw : Text) : Text := s ++ backtick :: (raw ++ [backtick])

theorem prefix_drop_literalLine_iff (s : Text) (hi : i + k.length ≤ raw.length) :
    k <+: (literalLine s raw).drop (s.length + 1 + i) ↔ k <+: raw.drop i := by
  have hdrop : (literalLine s raw).drop (s.length + 1 + i) = raw.drop i ++ [backtick] := by
    rw [literalLine, ← List.drop_drop, List.append_cons s, List.drop_left' (by simp),
      List.drop_append_of_le_length (by omega)]
  rw [hdrop]
  constructor
  · intro h
    apply List.prefix_of_prefix_length_le h (List.prefix_append _ _)
    rw [List.length_drop]
    omega
  · exact fun h => h.trans (List.prefix_append _ _)

/-- Where no colon stands before the literal, every mark of the line stands in it. -/
theorem lt_of_mark (hs : ':' ∉ s) (h : Segment.mark <+: (literalLine s raw).drop m) :
    s.length < m := by
  refine Nat.lt_of_not_le fun hle => ?_
  rw [literalLine, List.drop_append_of_le_length hle, prefix_append_cons_iff (by decide)] at h
  exact hs (List.mem_of_mem_drop (h.subset (by decide)))

/-- What stands behind a mark of the literal is located in the literal. -/
theorem exists_keyColumn? (hs : ':' ∉ s) (hraw : raw = a ++ (Segment.mark ++ b)) (hne : k ≠ [])
    (hk : k <:+: b) :
    ∃ l r, raw = l ++ (k ++ r) ∧
    keyColumn? k (literalLine s raw) 0 = some (s.length + 1 + l.length) := by
  obtain ⟨x, y, rfl⟩ := hk
  have hlen : raw.length = a.length + (Segment.mark.length + (x.length + k.length + y.length)) := by
    rw [hraw]
    simp only [List.length_append]
  have hmark : Segment.mark <+: (literalLine s raw).drop (s.length + 1 + a.length) := by
    rw [prefix_drop_literalLine_iff s (by omega), hraw]
    simp
  have hkey : k <+: (literalLine s raw).drop
      (s.length + 1 + (a.length + (Segment.mark.length + x.length))) := by
    rw [prefix_drop_literalLine_iff s (by omega), hraw, ← List.drop_drop, ← List.drop_drop]
    simp
  have hbehind : s.length + 1 + a.length + Segment.mark.length
      ≤ s.length + 1 + (a.length + (Segment.mark.length + x.length)) := by omega
  obtain ⟨m, column, hcolumn, hshown, hm, hmle, hle⟩ := exists_keyColumn?_le hne hmark hbehind hkey
  have hlt := lt_of_mark hs hm
  -- The key is found behind the first mark, and not behind the place that it is known to stand at.
  obtain ⟨j, rfl⟩ : ∃ j, column = s.length + 1 + j := ⟨column - (s.length + 1), by omega⟩
  obtain ⟨r, hr⟩ := (prefix_drop_literalLine_iff s (by omega)).mp hshown
  refine ⟨raw.take j, r, ?_, ?_⟩
  · rw [hr, List.take_append_drop]
  · rw [List.length_take_of_le (by omega), hcolumn]

/-! ## Diagnostics -/

/-- The range shows the key on the line that declares the field in its struct, between the backticks
of its tag. -/
inductive ShownInTag (d : FlatDocument) (st : FlatStruct) (f : FlatField) (k : Text)
    (r : Range) : Prop where
  | mk {n : Nat} {pad : Indent} {tag : RawTag} {left right : Text} (hdeclared : d.DeclaredOn st f n)
      (htag : f.tag = some (pad, tag)) (hliteral : tag.text = left ++ (k ++ right))
      (hline : (lines d.text)[n]? = some (literalLine (f.code ++ pad.text) tag.text))
      (hr : r.Shows d.text n ((f.code ++ pad.text).length + 1 + left.length) k)

theorem colon_not_mem_code (f : FlatField) (pad : Indent) : ':' ∉ f.code ++ pad.text := by
  have hname : ':' ∉ f.name.text := not_mem_of_class f.name.isWord (by decide)
  have htype : ':' ∉ f.type.text := not_mem_of_class f.type.isTypeChar (by decide)
  have hindent : ∀ i : Indent, ':' ∉ i.text := fun i => not_mem_of_class i.isBlank (by decide)
  simp [FlatField.code, hname, htype, hindent]

/-- A field with a key has a literal, and the key stands behind a mark in it. -/
theorem exists_of_keyIn (h : KeyIn f.field.tag k) :
    ∃ pad tag a b, f.tag = some (pad, tag) ∧ tag.text = a ++ (Segment.mark ++ b) ∧ k <:+: b := by
  obtain ⟨a, b, hliteral, hb⟩ := Segment.exists_behind_mark h
  cases htag : f.tag with
  | none =>
    have hnil : f.field.rawTag = [] := by
      rw [FlatField.field, FlatField.ending, htag]
      rfl
    rw [hnil] at hliteral
    obtain ⟨-, hrest⟩ := List.append_eq_nil_iff.mp hliteral.symm
    exact absurd (List.append_eq_nil_iff.mp hrest).1 (by decide)
  | some p =>
    obtain ⟨pad, tag⟩ := p
    have hraw : f.field.rawTag = tag.text := by
      rw [FlatField.field, FlatField.ending, htag]
      rfl
    rw [hraw] at hliteral
    exact ⟨pad, tag, a, b, rfl, hliteral, hb⟩

/-- The key of a field is shown in its tag. -/
theorem shownInTag (hst : d.structs = xs ++ (g, st) :: ys) (hf : st.fields = fs ++ f :: fs')
    (hk : KeyIn f.field.tag k) :
    ShownInTag d st f k (range d.text st.name.text f.name.text (some k)) := by
  obtain ⟨pad, tag, a, b, htag, hraw, hb⟩ := exists_of_keyIn hk
  obtain ⟨left, right, hliteral, hcolumn⟩ :=
    exists_keyColumn? (colon_not_mem_code f pad) hraw hk.ne_nil hb
  have hheader := headerOn hst
  obtain ⟨column, hfound⟩ := hheader.found
  obtain ⟨hfield, hline⟩ := hheader.fieldLine? hf
  have htext : d.text ≠ [] := by
    intro hnil
    rw [hnil] at hline
    simp [lines, split] at hline
  rw [f.line_of_some htag, ← literalLine] at hfield hline
  have hrange : range d.text st.name.text f.name.text (some k)
      = .onLine ((printed xs ++ g.text).count '\n' + 1 + fs.length)
        ((f.code ++ pad.text).length + 1 + left.length) k.length := by
    rw [range_of_structLine? htext st.name.ne_nil f.name.ne_nil hfound (some k), hfield]
    simp only [List.getD_eq_getElem?_getD, hline, Option.getD_some]
    exact onFieldLine_of_keyColumn? hk.ne_nil hcolumn _
  refine .mk ⟨xs, g, ys, fs, fs', hst, hf, rfl⟩ htag hliteral ?_ ?_
  · rw [count_before_field, hline]
  · rw [count_before_field, hrange]
    refine Range.shows_onLine hk.ne_nil hline ?_
    rw [prefix_drop_literalLine_iff, hliteral]
    · simp
    · simp [hliteral]

/-- With the built-in vocabulary and rules, the range of a diagnostic shows its key in the tag of
its field. -/
theorem range_of_diagnostic (d : FlatDocument) (hx : x ∈ validateText {} d.text) :
    ∃ st f k, x.structName = st.name.text ∧ x.fieldName = f.name.text ∧ x.key = some k
      ∧ ShownInTag d st f k (range d.text x.structName x.fieldName x.key) := by
  rw [validateText, structs_flat] at hx
  obtain ⟨decl, hdecl, hx⟩ := List.mem_flatMap.mp hx
  obtain ⟨⟨g, st⟩, hst, rfl⟩ := List.mem_map.mp hdecl
  obtain ⟨field, hfield, k, hpoints⟩ := pointsAt_of_mem_validateStruct hx
  obtain ⟨f, hf, rfl⟩ := List.mem_map.mp hfield
  obtain ⟨xs, ys, hst⟩ := List.append_of_mem hst
  obtain ⟨fs, fs', hf⟩ := List.append_of_mem hf
  refine ⟨st, f, k, hpoints.structName, hpoints.fieldName, hpoints.key, ?_⟩
  rw [hpoints.structName, hpoints.fieldName, hpoints.key]
  exact shownInTag hst hf hpoints.keyIn

/-- Two structs on end, where the key also stands before the mark. -/
def twoStructs : FlatDocument :=
  let size : FlatField :=
    { name := { text := "Size".toList }
      type := { text := "int".toList }
      tag := some ({ text := [' '] }, { text := "json:\"sizes\" gorm:\"sizes:1\"".toList })
      noKeyword := by decide +kernel }
  let noGap : Gap := { text := [], noKeyword := by decide, endsLine := .inl rfl }
  { structs :=
      [(noGap, { name := { text := "AB".toList }, fields := [], apart := .nil }),
        (noGap,
          { name := { text := "A".toList }
            fields := [size]
            apart := List.pairwise_singleton _ _ })]
    last := noGap
    distinct := by decide }

theorem range_of_diagnostic_twoStructs :
    ∃ x ∈ validateText {} twoStructs.text, x.key = some "sizes".toList
      ∧ range twoStructs.text x.structName x.fieldName x.key = .onLine 2 29 5
      ∧ ∃ st f k, x.structName = st.name.text ∧ x.fieldName = f.name.text ∧ x.key = some k
        ∧ ShownInTag twoStructs st f k (range twoStructs.text x.structName x.fieldName x.key) := by
  obtain ⟨x, hx, hkey, hrange⟩ : ∃ x ∈ validateText {} twoStructs.text, x.key = some "sizes".toList
      ∧ range twoStructs.text x.structName x.fieldName x.key = .onLine 2 29 5 := by
    decide +kernel
  exact ⟨x, hx, hkey, hrange, range_of_diagnostic twoStructs hx⟩

end TagLint.Locate
