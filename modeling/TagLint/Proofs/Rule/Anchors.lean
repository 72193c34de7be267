import TagLint.Proofs.Rule.Alike
import TagLint.Proofs.Tag.Entry

/-! Every diagnostic points at a key that is written in the tag of its field. -/
namespace TagLint
open Text

variable {segment : Text} {entries : List TagEntry} {e : TagEntry} {s : StructDecl} {d : Diagnostic}

/-! ## The pass over a field -/

/-- A key is like itself where an entry writes it. -/
def Likeness.tokensOf (entries : List TagEntry) : Likeness where
  key a b := a = b ∧ ∃ e ∈ entries, e.token = a
  message _ _ := True
  empty h := h.1 ▸ .rfl
  made _ _ _ _ := trivial

namespace FieldPass

/-- The pass finds something under the keys of entries alone. -/
theorem forall_token_of_writtenIn (hentries : ∀ e ∈ entries, e.WrittenIn segment) :
    ∃ found, findings {} entries = .ok found ∧ ∀ x ∈ found, ∃ e ∈ entries, e.token = x.2 := by
  have hself : List.Forall₂ (TagEntry.Alike (.tokensOf entries)) entries entries :=
    List.forall₂_same.mpr fun e he =>
      ⟨rfl, rfl, rfl, ⟨rfl, e, he, rfl⟩, (hentries e he).lowered, (hentries e he).lowered⟩
  obtain ⟨found, found', hfound, hfound', halike⟩ := exists_findings_alike hself
  obtain rfl : found = found' := Except.ok.inj (hfound.symm.trans hfound')
  exact ⟨found, hfound, fun x hx => (List.forall₂_same.mp halike x hx).key.2⟩

end FieldPass

/-! ## Diagnostics -/

/-- The diagnostic belongs to the field of the struct, and to a key in its tag. -/
structure Diagnostic.PointsAt (d : Diagnostic) (s : StructDecl) (f : FieldDecl)
    (k : Text) : Prop where
  structName : d.structName = s.name
  fieldName : d.fieldName = f.name
  tag : d.tag = f.tag
  key : d.key = some k
  keyIn : KeyIn f.tag k

theorem FieldDecl.writtenIn_of_mem_entries (f : FieldDecl) :
    ∀ e ∈ f.entries {}, e.WrittenIn f.tag :=
  fun _ he => TagEntry.writtenIn_of_mem_ofSegment Vocabulary.sound_empty he

/-- No built-in rule gives up on a field: its block is the complete pass. -/
theorem diagnostics_builtin (s : StructDecl) (f : FieldDecl) :
    FieldPass.diagnostics {} s f (f.entries {}) = .ok (validateField {} s f) := by
  obtain ⟨found, hfound, -⟩ := FieldPass.forall_token_of_writtenIn f.writtenIn_of_mem_entries
  have hfindings : FieldPass.findings {} (f.entries ({} : Registry).vocabulary) = .ok found :=
    hfound
  simp only [FieldPass.diagnostics, validateField, hfindings]
  rfl

theorem pointsAt_of_mem_validateField {f : FieldDecl} (hd : d ∈ validateField {} s f) :
    ∃ e ∈ f.entries {}, d.PointsAt s f e.token := by
  obtain ⟨found, hfound, htokens⟩ := FieldPass.forall_token_of_writtenIn f.writtenIn_of_mem_entries
  have hfindings : FieldPass.findings {} (f.entries ({} : Registry).vocabulary) = .ok found :=
    hfound
  rw [validateField, hfindings] at hd
  obtain ⟨⟨finding, k⟩, hx, rfl⟩ := List.mem_map.mp hd
  obtain ⟨e, he, rfl⟩ := htokens _ hx
  have hkey := (f.writtenIn_of_mem_entries e he).keyIn
  exact ⟨e, he, rfl, rfl, rfl, if_neg hkey.ne_nil, hkey⟩

/-- Whatever looks at all fields of a struct reports the key of an entry of one of them. -/
theorem StructRule.exists_entry_of_mem_findings {scanned : List ScannedField}
    (hd : d ∈ findings s scanned) :
    ∃ p ∈ scanned, ∃ e ∈ p.2, ∃ finding, d = diagnostic s p.1 finding e.token := by
  let told (d d' : Diagnostic) : Prop :=
    d = d' ∧ ∃ p ∈ scanned, ∃ e ∈ p.2, ∃ finding, d = diagnostic s p.1 finding e.token
  have hself : List.Forall₂ (RelatedFields told s s) scanned scanned :=
    List.forall₂_same.mpr fun p hp => List.forall₂_same.mpr fun e he =>
      ⟨rfl, rfl, rfl, fun finding => ⟨rfl, p, hp, e, he, finding, rfl⟩⟩
  exact (List.forall₂_same.mp (findings_related hself) d hd).2

/-- Every diagnostic of the built-in rules points at the key of an entry of a field of the
struct. -/
theorem exists_entry_of_mem_validateStruct (hd : d ∈ validateStruct {} s) :
    ∃ f ∈ s.fields, ∃ e ∈ f.entries {}, d.PointsAt s f e.token := by
  simp only [validateStruct, List.mem_append, List.mem_flatMap] at hd
  rcases hd with ⟨f, hf, hd⟩ | hd
  · exact ⟨f, (List.mem_filter.mp hf).1, pointsAt_of_mem_validateField hd⟩
  · obtain ⟨p, hp, e, he, finding, rfl⟩ := StructRule.exists_entry_of_mem_findings hd
    obtain ⟨f, hf, rfl⟩ := List.mem_map.mp hp
    exact ⟨f, (List.mem_filter.mp hf).1, e, he, rfl, rfl, rfl, rfl,
      (f.writtenIn_of_mem_entries e he).keyIn⟩

theorem pointsAt_of_mem_validateStruct (hd : d ∈ validateStruct {} s) :
    ∃ f ∈ s.fields, ∃ k, d.PointsAt s f k := by
  obtain ⟨f, hf, e, -, hpoints⟩ := exists_entry_of_mem_validateStruct hd
  exact ⟨f, hf, e.token, hpoints⟩

/-- Whatever is reported of a text is reported of an entry of one of its fields, under the key that
is written there. No rule gives up on any field. -/
theorem exists_entry_of_mem_validateText (t : Text) (cap : Option Int) :
    (∀ d ∈ validateText {} t cap, ∃ s ∈ structs t, ∃ f ∈ s.fields, ∃ e ∈ f.entries {},
      e.token = e.original ∧ d.PointsAt s f e.token) ∧
    ∀ s f, FieldPass.diagnostics {} s f (f.entries {}) = .ok (validateField {} s f) := by
  refine ⟨?_, diagnostics_builtin⟩
  intro d hd
  have hall : d ∈ validateStructs {} (structs t) := by
    cases cap with
    | none => exact hd
    | some n => exact List.mem_of_mem_take hd
  obtain ⟨s, hs, hd⟩ := List.mem_flatMap.mp hall
  obtain ⟨f, hf, e, he, hpoints⟩ := exists_entry_of_mem_validateStruct hd
  exact ⟨s, hs, f, hf, e, he, TagEntry.token_of_mem_ofSegment he, hpoints⟩

/-- The keys of the field in casings of their own. -/
def shouted : Text := "type A struct \x7b\n\tN int `gorm:\"PRIMARYKEY;Not Null;-\"`\n\x7d"

/-- The warning on a key that another key implies. -/
def impliedNotNull : Diagnostic :=
  ⟨"A", "N", "PRIMARYKEY;Not Null;-",
    "'PRIMARYKEY' automatically implies 'not null'. Remove 'not null' tag.", .warning,
    some "Not Null"⟩

theorem exists_entry_of_mem_validateText_shouted :
    impliedNotNull ∈ validateText {} shouted ∧
    ∃ s ∈ structs shouted, ∃ f ∈ s.fields, ∃ e ∈ f.entries {},
      e.token = e.original ∧ impliedNotNull.PointsAt s f e.token := by
  have hmem : impliedNotNull ∈ validateText {} shouted none := by decide +kernel
  exact ⟨hmem, (exists_entry_of_mem_validateText shouted none).1 impliedNotNull hmem⟩

end TagLint
