import TagLint.Proofs.Render.Answers
import TagLint.Proofs.Rule.OneLine
import TagLint.Proofs.Service.Paths

/-! The shortest form of a linted text: one line for each diagnostic, or a single line when there
are none. -/
namespace TagLint
open Text Render

variable {s : Service} {asked : Option Text} {f : Severity} {path : Text} {d : Diagnostic}
  {ds : List Diagnostic}

namespace Render

/-- A diagnostic in its shortest form. Without a path the struct stands first. -/
def shortLine (path : Text) (d : Diagnostic) : Text :=
  let place : Text := d.structName ++ "." ++ d.fieldName
  (if path = [] then place else path ++ ":" ++ place) ++ ": " ++ d.severity.name ++ ": "
    ++ d.message

theorem quietLine_placedJson (path : Text) (d : Diagnostic) :
    quietLine (LintSummary.placedJson ⟨d, path⟩) = .ok (shortLine path d) := by
  cases path <;> rfl

theorem oneLine_name (severity : Severity) : severity.name.OneLine := by
  cases severity <;> decide

theorem oneLine_shortLine (hpath : path.OneLine) (hd : d.OneLine) : (shortLine path d).OneLine := by
  have hplace : (if path = [] then (d.structName ++ "." ++ d.fieldName : Text)
      else path ++ ":" ++ (d.structName ++ "." ++ d.fieldName)).OneLine := by
    have hname : (d.structName ++ "." ++ d.fieldName : Text).OneLine :=
      oneLine_append.mpr ⟨oneLine_append.mpr ⟨hd.structName, by decide⟩, hd.fieldName⟩
    split
    · exact hname
    · exact oneLine_append.mpr ⟨oneLine_append.mpr ⟨hpath, by decide⟩, hname⟩
  simp only [shortLine, oneLine_append, and_assoc]
  exact ⟨hplace, by decide, oneLine_name d.severity, by decide, hd.message⟩

/-- Every text that is listed of a diagnostic stands on one line. -/
theorem exists_placedJson (hpath : path.OneLine) (hd : d.OneLine) : ∃ pairs,
    LintSummary.placedJson ⟨d, path⟩ = .dict pairs ∧ ∀ key t, (key, .text t) ∈ pairs →
    t.OneLine := by
  refine ⟨_, rfl, ?_⟩
  intro key t hmem
  simp only [List.mem_cons, Prod.mk.injEq, Json.text.injEq, List.not_mem_nil, or_false] at hmem
  rcases hmem with ⟨-, rfl⟩ | ⟨-, rfl⟩ | ⟨-, rfl⟩ | ⟨-, rfl⟩ | ⟨-, rfl⟩ | ⟨-, hkey⟩ | ⟨-, rfl⟩
  · exact hd.structName
  · exact hd.fieldName
  · exact hd.tag
  · exact hd.message
  · exact oneLine_name d.severity
  · have hsome : d.key = some t := Json.ofOption_injective hkey.symm
    exact hd.key t hsome
  · exact hpath

/-- The page of a summary has the lines of its diagnostics. -/
theorem exists_quiet_outcome {m : LintSummary} (hm : m.diagnostics = ds.map (⟨·, path⟩))
    (hpath : path.OneLine) (hds : ∀ d ∈ ds, d.OneLine) (warnings : List Text) :
    ∃ page, quiet (m.outcome warnings) = .ok page ∧
      Text.lines page = if ds = [] then ["OK: lint".toList] else ds.map (shortLine path) := by
  have hfound : diagnosticsOf (m.outcome warnings)
      = .ok (ds.map fun d => LintSummary.placedJson ⟨d, path⟩) := by
    rw [diagnosticsOf_eq rfl, hm, List.map_map]
    rfl
  have hmapM : (ds.map fun d => LintSummary.placedJson ⟨d, path⟩).mapM quietLine
      = .ok (ds.map (shortLine path)) := by
    rw [mapM_eq_ok_iff, List.forall₂_map_left_iff, List.forall₂_map_right_iff]
    exact List.forall₂_same.mpr fun d _ => quietLine_placedJson path d
  have hok : (m.outcome warnings).ok = true := rfl
  rw [quiet, hok, hfound]
  cases ds with
  | nil => exact ⟨_, rfl, rfl⟩
  | cons d ds =>
    refine ⟨join ['\n'] ((d :: ds).map (shortLine path)), ?_, ?_⟩
    · exact congrArg (fun x : Rendered (List Text) => x >>= fun ls => pure (join ['\n'] ls)) hmapM
    · rw [if_neg (List.cons_ne_nil d ds)]
      refine split_join (by simp) ?_
      intro t ht
      obtain ⟨d', hd', rfl⟩ := List.mem_map.mp ht
      exact oneLine_shortLine hpath (hds d' hd')

end Render

namespace Service

theorem mem_document_of_mem_keptUpTo {limit : Int} {text : Text}
    (hd : d ∈ s.keptUpTo limit asked text) :
    d ∈ (s.document text).1 := by
  rw [keptUpTo] at hd
  split at hd
  · exact (List.mem_filter.mp (List.mem_of_mem_take hd)).1
  · cases hd

theorem oneLine_of_mem_keptUpTo (hregistry : s.registry = {}) {limit : Int} {text : Text}
    (hd : d ∈ s.keptUpTo limit asked text) : d.OneLine := by
  have hmem := mem_document_of_mem_keptUpTo hd
  rw [document, hregistry] at hmem
  exact oneLine_of_mem_validateStructs hmem

/-- With the built-in vocabulary and rules, no text of a diagnostic has a line end, and the shortest
form of a linted text has one line for each diagnostic, in their order. Without diagnostics it is a
single line. -/
theorem lintText_quiet (hregistry : s.registry = {}) (hf : s.floor asked = .ok f)
    (hpath : path.OneLine) (text : Text) (cap : Option Int) :
    let kept := s.keptUpTo (s.limit cap) asked text
    let items := kept.map fun d => LintSummary.placedJson ⟨d, path⟩
    ∃ o events, s.lintText text path cap asked = .ok (o, events) ∧
      Json.lookup? "diagnostics".toList o.data = some (.list items) ∧
      Json.lookup? "count".toList o.data = some (.nat kept.length) ∧
      (∀ item ∈ items, ∃ pairs, item = .dict pairs ∧ ∀ key t, (key, .text t) ∈ pairs → t.OneLine) ∧
      ∃ page, o.render .quiet = .ok page ∧
        Text.lines page = if kept = [] then ["OK: lint".toList] else kept.map (shortLine path) := by
  intro kept items
  have hkept : ∀ d ∈ kept, d.OneLine := fun d hd => oneLine_of_mem_keptUpTo hregistry hd
  let m : LintSummary :=
    ⟨kept.map (⟨·, path⟩), s.limit cap < (passing f (s.document text).1).length,
      (s.document text).2, [path]⟩
  have hitems : m.diagnostics.map LintSummary.placedJson = items := List.map_map
  have hcount : m.count = kept.length := List.length_map _
  refine ⟨_, _, lintText_eq hf text path cap, ?_, ?_, ?_, ?_⟩
  · rw [withSpan_data, ← hitems]
    rfl
  · rw [withSpan_data, ← hcount]
    rfl
  · intro item hitem
    obtain ⟨d, hd, rfl⟩ := List.mem_map.mp hitem
    exact exists_placedJson hpath (hkept d hd)
  · rw [Outcome.render, Printer.render, quiet_withSpan]
    exact exists_quiet_outcome (m := m) rfl hpath hkept _

theorem lintText_quiet_twoFindings :
    ({} : Service).registry = {} ∧ ({} : Service).floor none = .ok .warning ∧ OneLine "a.go" ∧
    ∃ o events page, ({} : Service).lintText twoFindings "a.go" = .ok (o, events) ∧
      o.render .quiet = .ok page ∧
      Text.lines page
        = ["a.go:A.N: error: Invalid size value 'x'. Size must be a positive integer.".toList,
        "a.go:A.N: error: Unknown GORM tag 'sizes'. Check GORM documentation for valid tags."] := by
  have hregistry : ({} : Service).registry = {} := rfl
  have hf : ({} : Service).floor none = .ok .warning := rfl
  have hpath : OneLine "a.go" := by decide
  obtain ⟨o, events, hrun, -, -, -, page, hpage, hlines⟩ :=
    lintText_quiet hregistry hf hpath twoFindings none
  refine ⟨hregistry, hf, hpath, o, events, page, hrun, hpage, ?_⟩
  rw [hlines]
  decide +kernel

end Service
end TagLint
