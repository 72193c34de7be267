import TagLint.Proofs.Locate.LineEnds
import TagLint.Proofs.Rule.Anchors
import TagLint.Proofs.Struct.FieldTexts
import TagLint.Proofs.Struct.LineEnds
import TagLint.Proofs.Struct.Positions
import TagLint.Service.Report

/-! Line ends of two characters: the same report. -/
namespace TagLint
open Text

variable {t : Text} {c : Char} {s : StructDecl} {f : FieldDecl} {d : Diagnostic}

theorem HeaderAt.isWord {p body : Nat} {name : Text} (h : HeaderAt t p name body) :
    ∀ c ∈ name, isWord c := by
  obtain ⟨a, header, rest, -, -, -, hspelled, -⟩ := h
  obtain ⟨-, hword, -⟩ := hspelled
  exact hword

/-- A reported struct is named by a word, and its fields use the characters of the text. -/
theorem within_of_mem_structs (hs : s ∈ structs t) :
    (∀ c ∈ s.name, isWord c) ∧ ∀ f ∈ s.fields, f.Within t := by
  obtain ⟨p, hdeclares⟩ := exists_declares_of_mem hs
  cases hdeclares with
  | closed hheader hn =>
    refine ⟨hheader.isWord, fun f hf => (Body.within_of_mem_fields hf).trans ?_⟩
    exact List.Subset.trans (List.drop_subset _ _) (List.take_subset _ _)
  | unclosed hheader hn => exact ⟨hheader.isWord, by simp⟩

theorem FieldDecl.tag_subset (f : FieldDecl) : f.tag ⊆ f.rawTag := by
  by_cases hne : f.tag = []
  · simp [hne]
  · obtain ⟨a, b, hraw, hstands⟩ := Segment.exists_of_decode hne
    rw [hraw]
    exact fun c hc => List.mem_append_right a (List.mem_append_right _ (hstands.subset hc))

/-- What a diagnostic names is written in words, or in the characters of the text. -/
theorem not_mem_of_mem_validateText (hreturn : '\r' ∉ t) (hd : d ∈ validateText {} t) :
    '\r' ∉ d.structName ∧ '\r' ∉ d.fieldName ∧ ∀ k ∈ d.key, '\r' ∉ k := by
  obtain ⟨s, hs, hd⟩ := List.mem_flatMap.mp hd
  obtain ⟨f, hf, k, hpoints⟩ := pointsAt_of_mem_validateStruct hd
  obtain ⟨hword, hfields⟩ := within_of_mem_structs hs
  have hwithin := hfields f hf
  refine ⟨?_, ?_, ?_⟩
  · rw [hpoints.structName]
    intro hm
    exact absurd (hword _ hm) (by decide)
  · rw [hpoints.fieldName]
    exact fun hm => hreturn (hwithin.name hm)
  · rw [hpoints.key]
    rintro k' hk' hm
    obtain rfl := Option.some.inj hk'
    exact hreturn (hwithin.rawTag (f.tag_subset (hpoints.keyIn.stands.subset hm)))

theorem validateText_crlf (r : Registry) (h : NoContinuation t) (cap : Option Int) :
    validateText r (crlf t) cap = validateText r t cap := by
  simp only [validateText, structs_crlf h]

theorem mem_validateText_of_cap {r : Registry} {cap : Option Int} (hd : d ∈ validateText r t cap) :
    d ∈ validateText r t := by
  cases cap with
  | none => exact hd
  | some n => exact List.mem_of_mem_take hd

namespace Service

variable {service : Service}

theorem editorDiagnostics_crlf (hregistry : service.registry = {}) (hreturn : '\r' ∉ t)
    (hlines : NoContinuation t) (cap : Option Int) :
    service.editorDiagnostics (crlf t) cap = service.editorDiagnostics t cap := by
  rw [editorDiagnostics, editorDiagnostics, hregistry, validateText_crlf {} hlines]
  apply List.map_congr_left
  intro d hd
  obtain ⟨hname, hfield, hkey⟩ := not_mem_of_mem_validateText hreturn (mem_validateText_of_cap hd)
  rw [editorDiagnostic, Locate.range_crlf hname hfield hkey, editorDiagnostic]

/-- With the built-in vocabulary and rules, a text gives the same structs and the same report for
either line end. -/
theorem reportText_crlf (hregistry : service.registry = {}) (hreturn : '\r' ∉ t)
    (hlines : NoContinuation t) (uri : Text) (cap : Option Int) :
    structs (crlf t) = structs t
      ∧ service.editorDiagnostics (crlf t) cap = service.editorDiagnostics t cap
      ∧ service.reportText (crlf t) uri cap = service.reportText t uri cap := by
  have hdiagnostics := editorDiagnostics_crlf hregistry hreturn hlines cap
  refine ⟨structs_crlf hlines, hdiagnostics, ?_⟩
  rw [reportText, hdiagnostics, reportText]

/-- A value that is no number, and a key that is none. -/
def twoFindings : Text :=
  "type A struct \x7b\n N int \x60gorm:\"size:x;sizes:1\"\x60\n\x7d\n".toList

theorem reportText_crlf_twoFindings :
    '\r' ∉ twoFindings ∧ NoContinuation twoFindings
      ∧ (({} : Service).editorDiagnostics (crlf twoFindings) none).map EditorDiagnostic.range
        = [.onLine 1 14 4, .onLine 1 21 5]
      ∧ ({} : Service).reportText (crlf twoFindings) = ({} : Service).reportText twoFindings := by
  have hregistry : ({} : Service).registry = {} := rfl
  have hreturn : '\r' ∉ twoFindings := by decide
  have hlines : NoContinuation twoFindings := by decide +kernel
  obtain ⟨-, hdiagnostics, hreport⟩ :=
    reportText_crlf hregistry hreturn hlines "untitled:document".toList none
  refine ⟨hreturn, hlines, ?_, hreport⟩
  rw [hdiagnostics]
  decide +kernel

end Service
end TagLint
