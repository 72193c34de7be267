import Mathlib.Data.List.Forall2
import TagLint.Proofs.Service.Health
import TagLint.Service.Report

/-! Linting a text and reporting it to an editor: the same diagnostics. -/
namespace TagLint
open Text

variable {s : Service} {cap : Option Int} {asked : Option Text} {text : Text} {n : Nat}

/-! ## Ranges that an editor can show -/

/-- No number is negative, and something lies between the ends. -/
structure Range.Proper (r : Range) : Prop where
  line : 0 ≤ r.start.line
  character : 0 ≤ r.start.character
  stopLine : 0 ≤ r.stop.line
  stopCharacter : 0 ≤ r.stop.character
  notEmpty : r.isEmpty = false
  notInverted : r.isInverted = false

theorem Range.proper_forEditor (r : Range) : r.forEditor.Proper := by
  have hstart : 0 ≤ (clamp r.start).line ∧ 0 ≤ (clamp r.start).character := by
    simp only [clamp]
    omega
  have hstop : 0 ≤ (clamp r.stop).line ∧ 0 ≤ (clamp r.stop).character := by
    simp only [clamp]
    omega
  rw [forEditor]
  split
  case isTrue =>
    refine ⟨hstart.1, hstart.2, hstart.1, ?_, ?_, ?_⟩
    · change 0 ≤ (clamp r.start).character + 1
      omega
    · rw [isEmpty, beq_eq_false_iff_ne]
      intro heq
      have hcharacter : (clamp r.start).character = (clamp r.start).character + 1 :=
        congrArg Position.character heq
      omega
    · simp only [isInverted, Bool.or_eq_false_iff, Bool.and_eq_false_iff, decide_eq_false_iff_not]
      omega
  case isFalse h =>
    obtain ⟨hinverted, hempty⟩ := Bool.or_eq_false_iff.mp (Bool.eq_false_iff.mpr h)
    exact ⟨hstart.1, hstart.2, hstop.1, hstop.2, hempty, hinverted⟩

/-! ## One diagnostic -/

/-- The item of a report that shows a diagnostic. -/
structure Diagnostic.ShownBy (text : Text) (d : Diagnostic) (item : Json) : Prop where
  message : item.get? "message".toList = some (.text d.message)
  severity : item.get? "severity".toList = some (.nat (if d.severity = .error then 1 else 2))
  code : item.get? "code".toList
    = some (.text (if d.severity = .error then "gorm-error" else "gorm-warning"))
  range : item.get? "range".toList
    = some (Locate.range text d.structName d.fieldName d.key).forEditor.toJson
  proper : (Locate.range text d.structName d.fieldName d.key).forEditor.Proper

theorem EditorDiagnostic.level_eq (d : EditorDiagnostic) :
    d.level = if d.severity = .error then 1 else 2 := by
  rw [level]
  cases d.severity <;> rfl

theorem EditorDiagnostic.code_eq (d : EditorDiagnostic) :
    d.code = if d.severity = .error then "gorm-error".toList else "gorm-warning" := by
  rw [code]
  cases d.severity <;> rfl

theorem Diagnostic.shownBy_editorDiagnostic (options : ReportOptions) (text uri : Text)
    (d : Diagnostic) :
    d.ShownBy text ((Service.editorDiagnostic text d).toJson options uri) := by
  have hlevel := EditorDiagnostic.level_eq (Service.editorDiagnostic text d)
  have hcode := EditorDiagnostic.code_eq (Service.editorDiagnostic text d)
  exact ⟨rfl, congrArg (some <| Json.nat ·) hlevel, congrArg (some <| Json.text ·) hcode, rfl,
    Range.proper_forEditor _⟩

/-! ## A text -/

namespace Service

/-- The cap is the same before and after the diagnostics are turned into what an editor shows. -/
theorem editorDiagnostics_eq (hn : s.limit cap = (n : Int)) (text : Text) :
    s.editorDiagnostics text cap =
    ((validateStructs s.registry (structs text)).take n).map (editorDiagnostic text) := by
  rw [editorDiagnostics, hn]
  rfl

/-- Where warnings pass, linting a text and reporting it list the same diagnostics, capped at the
same place. -/
theorem reportText_agrees (hf : s.floor asked = .ok .warning) (hn : 0 ≤ s.limit cap)
    (text path uri : Text) :
    ∃ o events ds items, s.lintText text path cap asked = .ok (o, events) ∧ o.ok = true ∧
      ds = (validateStructs s.registry (structs text)).take (s.limit cap).toNat ∧
      Json.lookup? "diagnostics".toList o.data
        = some (.list (ds.map fun d => LintSummary.placedJson ⟨d, path⟩)) ∧
      Json.lookup? "count".toList o.data = some (.nat ds.length) ∧
      (s.reportText text uri cap).ok = true ∧
      Json.lookup? "diagnostics".toList (s.reportText text uri cap).data = some (.list items) ∧
      Json.lookup? "count".toList (s.reportText text uri cap).data = some (.nat ds.length) ∧
      List.Forall₂ (Diagnostic.ShownBy text) ds items := by
  obtain ⟨n, hlimit⟩ := Int.eq_ofNat_of_zero_le hn
  obtain ⟨span, warnings, events, hrun⟩ := exists_lintText hf hlimit text path
  let ds := (validateStructs s.registry (structs text)).take n
  let items := ds.map fun d => (editorDiagnostic text d).toJson s.report uri
  have hlisted : (s.textSummary .warning n text path).diagnostics = ds.map (⟨·, path⟩) := by rfl
  have hreport : (s.reportText text uri cap).data
      = [("uri".toList, .text uri), ("diagnostics".toList, .list items),
        ("count".toList, .nat ds.length)] := by
    rw [reportText, withSpan_data, editorDiagnostics_eq hlimit, List.map_map, List.length_map]
    rfl
  have hshown : List.Forall₂ (Diagnostic.ShownBy text) ds items := by
    rw [List.forall₂_map_right_iff, List.forall₂_same]
    exact fun d _ => d.shownBy_editorDiagnostic s.report text uri
  refine ⟨_, events, ds, items, hrun, ?_, by rw [hlimit, Int.toNat_natCast], ?_, ?_, ?_, ?_, ?_,
    hshown⟩
  · rw [withSpan_ok]
    rfl
  · rw [withSpan_data]
    change some
        (Json.list ((s.textSummary .warning n text path).diagnostics.map LintSummary.placedJson))
        = _
    rw [hlisted, List.map_map]
    rfl
  · rw [withSpan_data]
    change some (Json.nat (s.textSummary .warning n text path).diagnostics.length) = _
    rw [hlisted, List.length_map]
  · rw [reportText, withSpan_ok]
  · rw [hreport]
    rfl
  · rw [hreport]
    rfl

/-- The warning and the error of one field, in the text and in the report. -/
theorem reportText_agrees_warningThenError :
    ({} : Service).floor none = .ok .warning ∧ 0 ≤ ({} : Service).limit (some 2) ∧
    ∃ o events items,
      ({} : Service).lintText warningThenError stdinPath (some 2) = .ok (o, events) ∧
      Json.lookup? "count".toList o.data = some (.nat 2) ∧
      Json.lookup? "diagnostics".toList
        (({} : Service).reportText warningThenError "untitled:document" (some 2)).data
          = some (.list items) ∧
      items.map (Json.get? "code".toList)
        = [some (.text "gorm-warning"), some (.text "gorm-error")] := by
  have hf : ({} : Service).floor none = .ok .warning := rfl
  have hn : 0 ≤ ({} : Service).limit (some 2) := by decide
  obtain ⟨o, events, ds, items, hrun, -, hds, -, hcount, -, hitems, -, hshown⟩ :=
    reportText_agrees hf hn warningThenError stdinPath "untitled:document"
  have herrors : ds.map Diagnostic.isError = [false, true] := by
    rw [hds, List.map_take]
    exact congrArg (List.take 2) isError_warningThenError
  obtain ⟨d, rest, rfl, hd, hrest⟩ := List.map_eq_cons_iff.mp herrors
  obtain ⟨d', rest', rfl, hd', hnil⟩ := List.map_eq_cons_iff.mp hrest
  obtain rfl := List.map_eq_nil_iff.mp hnil
  refine ⟨hf, hn, o, events, items, hrun, hcount, hitems, ?_⟩
  cases hshown with
  | cons hitem hshown =>
    cases hshown with
    | cons hitem' hshown =>
      cases hshown
      have hcode := hitem.code
      have hcode' := hitem'.code
      rw [if_neg (of_decide_eq_false hd)] at hcode
      rw [if_pos (of_decide_eq_true hd')] at hcode'
      rw [List.map_cons, List.map_cons, List.map_nil, hcode, hcode']

end Service
end TagLint
