import TagLint.Proofs.Rule.Anchors
import TagLint.Proofs.Rule.Mentions

/-! Keys may be written in any casing: it shows in what is reported, but not in whether and
where. -/
namespace TagLint
open Text

variable {r : Registry} {s s' : StructDecl} {ss ss' : List StructDecl} {f g : FieldDecl}

/-! ## Fields without entries -/

theorem FieldDecl.entries_of_untagged (h : f.isTagged = false) (v : Vocabulary) :
    f.entries v = [] := by
  refine List.eq_nil_iff_forall_not_mem.mpr ?_
  intro e he
  obtain ⟨part, -, htrim, hne, -, hstands⟩ := TagEntry.exists_part_of_mem he
  obtain ⟨c, rest, rfl⟩ := List.exists_cons_of_ne_nil hne
  have hc : isBlank c = false := head?_trim (c :: rest) c (by rw [htrim]; rfl)
  have hblank : allBlank f.tag := by simpa [isTagged] using h
  have hcontra := List.all_eq_true.mp hblank c (hstands.subset List.mem_cons_self)
  simp [hc] at hcontra

theorem validateField_of_untagged (h : f.isTagged = false) : validateField r s f = [] := by
  rw [validateField, f.entries_of_untagged h]
  rfl

namespace StructRule
variable {β : Type}

/-- All fields of a struct with their entries, those without a tag too. -/
def allFields (v : Vocabulary) (s : StructDecl) : List ScannedField :=
  s.fields.map fun f => (f, f.entries v)

theorem flatMap_allFields {g : ScannedField → List β} (hnil : ∀ f, g (f, []) = []) (v : Vocabulary)
    (s : StructDecl) :
    (scannedFields v s).flatMap g = (allFields v s).flatMap g := by
  rw [scannedFields, allFields, List.flatMap_map, List.flatMap_map]
  refine flatMap_filter_of_nil ?_ s.fields
  intro f hf
  rw [f.entries_of_untagged hf]
  exact hnil f

theorem filterMap_allFields {g : ScannedField → Option β} (hnone : ∀ f, g (f, []) = none)
    (v : Vocabulary)
    (s : StructDecl) : (scannedFields v s).filterMap g = (allFields v s).filterMap g := by
  rw [List.filterMap_eq_flatMap_toList, List.filterMap_eq_flatMap_toList]
  exact flatMap_allFields (fun f => by rw [hnone]; rfl) v s

/-- The rules on a struct see only the fields with entries. -/
theorem findings_allFields (v : Vocabulary) (s : StructDecl) :
    findings s (scannedFields v s) = findings s (allFields v s) := by
  have hclaims : columnClaims (scannedFields v s) = columnClaims (allFields v s) :=
    flatMap_allFields (fun _ => rfl) v s
  have hmarked : primaryKeys (scannedFields v s) = primaryKeys (allFields v s) :=
    filterMap_allFields (fun _ => rfl) v s
  have hnames : indexNames (scannedFields v s) = indexNames (allFields v s) :=
    congrArg List.eraseDups (flatMap_allFields (fun _ => rfl) v s)
  have hmembers : indexMembers (scannedFields v s) = indexMembers (allFields v s) := by
    funext name
    exact filterMap_allFields (fun _ => rfl) v s
  simp only [findings, columnNames, multiplePrimaryKeys, sharedIndexes, hclaims, hmarked, hnames,
    hmembers]

end StructRule

/-- A field without a tag adds nothing to what is reported of its struct. -/
theorem validateStruct_eq_allFields (r : Registry) (s : StructDecl) : validateStruct r s
    = s.fields.flatMap (validateField r s) ++ StructRule.findings s
      (StructRule.allFields r.vocabulary s) := by
  rw [← StructRule.findings_allFields, ← StructRule.flatMap_filter_of_nil fun _ =>
    validateField_of_untagged]
  rfl

/-! ## Casings of a key -/

/-- The entries have one value and, in lower case, one key. -/
structure TagEntry.Recased (a b : TagEntry) : Prop where
  value : a.value = b.value
  key : lower a.token = lower b.token

/-- The fields differ in their tags alone, and what the tags say differs in the casing of keys
alone. -/
structure FieldDecl.Recased (f g : FieldDecl) : Prop where
  name : f.name = g.name
  declaredType : f.declaredType = g.declaredType
  entries : List.Forall₂ TagEntry.Recased (f.entries {}) (g.entries {})

structure StructDecl.Recased (s s' : StructDecl) : Prop where
  name : s.name = s'.name
  fields : List.Forall₂ FieldDecl.Recased s.fields s'.fields

instance (a b : TagEntry) : Decidable (a.Recased b) :=
  decidable_of_iff (a.value = b.value ∧ lower a.token = lower b.token) ⟨fun h => ⟨h.1, h.2⟩,
    fun h => ⟨h.value, h.key⟩⟩

instance (f g : FieldDecl) : Decidable (f.Recased g) :=
  decidable_of_iff (f.name = g.name ∧ f.declaredType = g.declaredType ∧
    List.Forall₂ TagEntry.Recased (f.entries {}) (g.entries {}))
    ⟨fun h => ⟨h.1, h.2.1, h.2.2⟩, fun h => ⟨h.name, h.declaredType, h.entries⟩⟩

instance (s s' : StructDecl) : Decidable (s.Recased s') :=
  decidable_of_iff (s.name = s'.name ∧ List.Forall₂ FieldDecl.Recased s.fields s'.fields)
    ⟨fun h => ⟨h.1, h.2⟩, fun h => ⟨h.name, h.fields⟩⟩

/-- The diagnostics are of one place and one severity, and highlight one key in some casing. -/
structure Diagnostic.SameVerdict (d d' : Diagnostic) : Prop where
  structName : d.structName = d'.structName
  fieldName : d.fieldName = d'.fieldName
  severity : d.severity = d'.severity
  key : d.key.map lower = d'.key.map lower

/-- Keys are alike in all casings. -/
def Likeness.casing : Likeness where
  key a b := lower a = lower b
  message _ _ := True
  empty h := by rw [← lower_eq_nil_iff, h, lower_eq_nil_iff]
  made _ _ _ _ := trivial

/-- What was found of keys that differ in casing is reported alike. -/
theorem sameVerdict_of_alike {x y : Anchored} (h : x.Alike .casing y) (hs : s.name = s'.name)
    (hf : f.name = g.name) :
    (x.1.on s.name f.name f.tag x.2).SameVerdict (y.1.on s'.name g.name g.tag y.2) := by
  refine ⟨hs, hf, h.severity, ?_⟩
  have hkey : lower x.2 = lower y.2 := h.key
  have hempty : x.2 = [] ↔ y.2 = [] := Likeness.casing.empty h.key
  simp only [Finding.on, hempty]
  split
  · rfl
  · exact congrArg some hkey

theorem FieldDecl.Recased.alike (h : f.Recased g) :
    List.Forall₂ (TagEntry.Alike .casing) (f.entries {}) (g.entries {}) := by
  refine List.forall₂_of_length_eq_of_get h.entries.length_eq ?_
  intro i hi hi'
  have hrecased := h.entries.get hi hi'
  have ha := f.writtenIn_of_mem_entries _ (List.get_mem _ ⟨i, hi⟩)
  have hb := g.writtenIn_of_mem_entries _ (List.get_mem _ ⟨i, hi'⟩)
  refine ⟨?_, ?_, hrecased.value, hrecased.key, ha.lowered, hb.lowered⟩
  · rw [TagEntry.foldKey_key_of_mem_ofSegment Vocabulary.sound_empty (List.get_mem _ ⟨i, hi⟩),
      TagEntry.foldKey_key_of_mem_ofSegment Vocabulary.sound_empty (List.get_mem _ ⟨i, hi'⟩)]
    exact hrecased.key
  · rw [ha.lowered, hb.lowered]
    exact hrecased.key

theorem validateField_recased (hs : s.name = s'.name) (h : f.Recased g) :
    List.Forall₂ Diagnostic.SameVerdict (validateField {} s f) (validateField {} s' g) := by
  obtain ⟨found, found', hfound, hfound', halike⟩ := FieldPass.exists_findings_alike h.alike
  have hleft : FieldPass.findings {} (f.entries ({} : Registry).vocabulary) = .ok found := hfound
  have hright : FieldPass.findings {} (g.entries ({} : Registry).vocabulary) = .ok found' := hfound'
  simp only [validateField, hleft, hright]
  exact List.rel_map (fun _ _ hxy => sameVerdict_of_alike hxy hs h.name) halike

theorem relatedFields_recased (hs : s.name = s'.name) (h : f.Recased g) :
    StructRule.RelatedFields Diagnostic.SameVerdict s s' (f, f.entries {}) (g, g.entries {}) := by
  refine h.alike.imp ?_
  intro a b hab
  exact ⟨hab.lowered, hab.value, h.name, fun _ => ⟨hs, h.name, rfl, congrArg some hab.token⟩⟩

theorem validateStruct_recased (h : s.Recased s') :
    List.Forall₂ Diagnostic.SameVerdict (validateStruct {} s) (validateStruct {} s') := by
  -- the tagged fields need not go in step: a blank tag may stand against one with separators alone
  rw [validateStruct_eq_allFields, validateStruct_eq_allFields]
  refine List.rel_append ?_ (StructRule.findings_related ?_)
  · exact List.rel_flatMap h.fields fun _ _ hfield => validateField_recased h.name hfield
  · exact List.rel_map (fun _ _ hfield => relatedFields_recased h.name hfield) h.fields

/-- Of struct declarations that differ in the casing of their keys alone the built-in rules report
the same, in the same order, but for the texts that show the keys. -/
theorem validateStructs_recased (h : List.Forall₂ StructDecl.Recased ss ss') :
    List.Forall₂ Diagnostic.SameVerdict (validateStructs {} ss) (validateStructs {} ss') :=
  List.rel_flatMap h fun _ _ hstruct => validateStruct_recased hstruct

/-- Two primary keys, keys that repeat and that exclude each other, a column named twice, an unknown
key and a field with nothing to say. -/
def spelled : StructDecl :=
  ⟨"User", [⟨"ID", "uint", "gorm:\"primaryKey;column:n;unique\""⟩,
    ⟨"No", "uint", "gorm:\"primaryKey;size:x;size\""⟩, ⟨"Tag", "string", "gorm:\" \""⟩,
    ⟨"Code", "string", "gorm:\"column:n;straße\""⟩]⟩

/-- The same in other casings; a tag without entries may be blank or not. -/
def respelled : StructDecl :=
  ⟨"User", [⟨"ID", "uint", "gorm:\"PrimaryKEY;COLUMN:n;Unique\""⟩,
    ⟨"No", "uint", "gorm:\"PRIMARYKEY; Size : x;siZe\""⟩, ⟨"Tag", "string", "gorm:\";\""⟩,
    ⟨"Code", "string", "gorm:\"cOLUMN:n;;STRAßE\""⟩]⟩

theorem validateStructs_recased_spelled :
    List.Forall₂ StructDecl.Recased [spelled] [respelled] ∧
    (validateStructs {} [spelled]).map (fun d => (d.fieldName, d.key))
      = ([("ID", some "primaryKey"), ("ID", some "unique"), ("No", some "size"),
        ("No", some "size"), ("Code", some "straße"), ("Code", some "column"),
        ("ID", some "primaryKey"), ("No", some "primaryKey")] : List (Text × Option Text)) ∧
    List.Forall₂ Diagnostic.SameVerdict (validateStructs {} [spelled])
      (validateStructs {} [respelled]) := by
  have hrecased : List.Forall₂ StructDecl.Recased [spelled] [respelled] := by decide +kernel
  exact ⟨hrecased, by decide +kernel, validateStructs_recased hrecased⟩

end TagLint
