import TagLint.Locate
import TagLint.Service.Lint

/-! Ranges, editor diagnostics and the key vocabulary as operations. -/
namespace TagLint
open Text

def Position.toJson (p : Position) : Json :=
  .dict [("line".toList, .int p.line), ("character".toList, .int p.character)]

def Range.toJson (r : Range) : Json :=
  .dict [("start".toList, r.start.toJson), ("end".toList, r.stop.toJson)]

/-- A diagnostic as an editor shows it. -/
structure EditorDiagnostic where
  range : Range
  message : Text
  severity : Severity
  /-- The struct and the field it belongs to. -/
  structName : Text
  fieldName : Text
deriving DecidableEq, Repr

namespace EditorDiagnostic

def level (d : EditorDiagnostic) : Nat :=
  match d.severity with
  | .error => 1
  | .warning => 2

def code (d : EditorDiagnostic) : Text := "gorm-" ++ d.severity.name

def related (uri : Text) (d : EditorDiagnostic) : Json :=
  .dict [
    ("location".toList, .dict [("uri".toList, .text uri), ("range".toList, d.range.toJson)]),
    ("message".toList, .text ("In struct: " ++ d.structName ++ ", field: " ++ d.fieldName))]

def toJson (options : ReportOptions) (uri : Text) (d : EditorDiagnostic) : Json :=
  .dict ([("range".toList, d.range.toJson), ("message".toList, .text d.message),
      ("severity".toList, .nat d.level), ("source".toList, .text options.source),
      ("code".toList, .text d.code)]
    ++ if options.relatedInformation then
        [("relatedInformation".toList, .list [d.related uri])]
      else [])

end EditorDiagnostic

namespace Service

/-- A diagnostic as an editor shows it. A range is found for every struct, field and key, so nothing
stands for one that could not be found, and the message is never extended with the struct and the
field of a diagnostic without a range. -/
def editorDiagnostic (text : Text) (d : Diagnostic) : EditorDiagnostic :=
  ⟨(Locate.range text d.structName d.fieldName d.key).forEditor, d.message, d.severity,
    d.structName, d.fieldName⟩

def editorDiagnostics (s : Service) (text : Text) (cap : Option Int) : List EditorDiagnostic :=
  (validateText s.registry text (some (s.limit cap))).map (editorDiagnostic text)

/-- The diagnostics of one document for an editor. Every text has diagnostics: the scanners stop at
the end of a text, what they do not know they pass over, and a rule that raises is caught at its
field and becomes an error there. So no entry stands for a document that could not be read. -/
def reportText (s : Service) (text : Text) (uri : Text := "untitled:document")
    (cap : Option Int := none) : Outcome :=
  let items := s.editorDiagnostics text cap
  let span : Span :=
    { name := "LintService.report", counts := [("diagnostics".toList, items.length)] }
  s.withSpan span
    { ok := true
      op := "report"
      data := [("uri".toList, .text uri),
        ("diagnostics".toList, .list (items.map (EditorDiagnostic.toJson s.report uri))),
        ("count".toList, .nat items.length)] }

/-- The range of a field, or of a key in its tag. -/
def locate (s : Service) (text structName fieldName : Text) (key : Option Text) : Outcome :=
  let range := Locate.range text structName fieldName key
  s.withSpan { name := "LintService.locate" }
    { ok := true
      op := "locate"
      data := [("struct".toList, .text structName), ("field".toList, .text fieldName),
        ("key".toList, .ofOption key), ("range".toList, range.toJson),
        ("text".toList, .text (range.slice text))] }

def keysOutcome (classes : List (KeyClass × List Text)) : Outcome :=
  { ok := true
    op := "keys"
    data := [
      ("classes".toList, .dict (classes.map fun (c, names) => (c.name, .texts names))),
      ("count".toList, .nat (classes.foldl (fun n c => n + c.2.length) 0))] }

/-- The vocabulary by class, or one class of it. -/
def keys (s : Service) (kind : Option Text) : Outcome :=
  s.withSpan { name := "LintService.keys" } <|
    match kind with
    | none => keysOutcome s.registry.vocabulary.byClass
    | some kind =>
      match KeyClass.ofName? (lower kind) with
      | some c => keysOutcome [(c, s.registry.vocabulary.namesOf c)]
      | none => Outcome.failure "keys" "INVALID_KIND" ("Unknown key classification: " ++ kind) []
          [("choices".toList, .texts (KeyClass.all.map KeyClass.name))]

end Service
end TagLint
