import TagLint.FileTree.Collect
import TagLint.Plugin.Host
import TagLint.Service.Outcome
import TagLint.Settings.Options
import TagLint.Validate

/-! Linting of texts, files and directories, with caps, a severity floor and telemetry. -/
namespace TagLint
open Text

/-- A diagnostic with the path of the document it belongs to. -/
structure Placed where
  diagnostic : Diagnostic
  path : Text
deriving DecidableEq, Repr

structure LintSummary where
  diagnostics : List Placed
  truncated : Bool
  structs : Nat
  files : List Text
deriving DecidableEq, Repr

namespace LintSummary

def count (s : LintSummary) : Nat := s.diagnostics.length

def errorCount (s : LintSummary) : Nat := s.diagnostics.countP (·.diagnostic.severity = .error)

def warningCount (s : LintSummary) : Nat := s.count - s.errorCount

def isHealthy (s : LintSummary) : Bool := s.errorCount == 0

def placedJson (p : Placed) : Json :=
  let d := p.diagnostic
  .dict [("struct_name".toList, .text d.structName), ("field_name".toList, .text d.fieldName),
    ("tag".toList, .text d.tag), ("message".toList, .text d.message),
    ("severity".toList, .text d.severity.name), ("key".toList, .ofOption d.key),
    ("path".toList, .text p.path)]

def data (s : LintSummary) : List (Text × Json) :=
  [("diagnostics".toList, .list (s.diagnostics.map placedJson)), ("count".toList, .nat s.count),
    ("error_count".toList, .nat s.errorCount), ("warning_count".toList, .nat s.warningCount),
    ("healthy".toList, .bool s.isHealthy), ("truncated".toList, .bool s.truncated),
    ("structs".toList, .nat s.structs), ("files".toList, .texts s.files)]

def outcome (s : LintSummary) (warnings : List Text) : Outcome :=
  { ok := true, op := "lint", data := s.data, warnings }

end LintSummary

/-- What the operations work with. Without a host no hooks are called. -/
structure Service where
  lint : LintOptions := {}
  report : ReportOptions := {}
  registry : Registry := {}
  host : Option Host := none
  tracing : Bool := false

/-- A severity that is neither `error` nor `warning`. -/
structure UnknownSeverity where
  given : Text
deriving DecidableEq, Repr

def UnknownSeverity.message (e : UnknownSeverity) : Text :=
  quoted e.given ++ " is not a valid Severity"

namespace Service

def stdinPath : Text := "<stdin>"

def withSpan (s : Service) (span : Span) (o : Outcome) : Outcome :=
  if s.tracing then o.traced span else o

/-- The floor as asked for, an empty one counting as none. -/
def floor (s : Service) (asked : Option Text) : Except UnknownSeverity Severity :=
  match asked.getD [] with
  | [] => .ok s.lint.minSeverity
  | t =>
    match Severity.ofName? t with
    | some severity => .ok severity
    | none => .error ⟨t⟩

def limit (s : Service) (asked : Option Int) : Int := asked.getD s.lint.maxProblems

def passing (floor : Severity) (ds : List Diagnostic) : List Diagnostic :=
  if floor = .error then ds.filter (·.severity = .error) else ds

/-- A negative cap counts from the end. -/
def capped (limit : Int) (ds : List Diagnostic) : List Diagnostic := slice 0 limit ds

/-- All diagnostics of a document and the number of its structs. -/
def document (s : Service) (text : Text) : List Diagnostic × Nat :=
  let found := structs text
  (validateStructs s.registry found, found.length)

def errorsIn (ds : List Diagnostic) : Nat := ds.countP (·.severity = .error)

/-- Calls the hooks for a document. A hook that fails gives a warning, never an error. -/
def afterLint (s : Service) (path : Text) (ds : List Diagnostic) : List LintEvent × List Text :=
  match s.host with
  | none => ([], [])
  | some host =>
    let errors := errorsIn ds
    let (events, failure) := host.postLint path errors (ds.length - errors)
    (events, if failure.isSome then ["Plugin hook post_lint failed".toList] else [])

def documentCounts (structs diagnostics : Nat) : List (Text × Int) :=
  [("files".toList, 1), ("structs".toList, structs), ("diagnostics".toList, diagnostics)]

/-- Lints one document. -/
def lintText (s : Service) (text : Text) (path : Text := stdinPath) (cap : Option Int := none)
    (floor : Option Text := none) : Except UnknownSeverity (Outcome × List LintEvent) := do
  let (all, count) := s.document text
  let passed := passing (← s.floor floor) all
  let limit := s.limit cap
  let kept := capped limit passed
  let (events, warnings) := s.afterLint path kept
  let summary : LintSummary :=
    ⟨kept.map (⟨·, path⟩), limit < passed.length, count, [path]⟩
  let span : Span :=
    { name := "LintService.lint_text", counts := documentCounts count kept.length }
  return (s.withSpan span (summary.outcome warnings), events)

/-- What linting several files has gathered so far. -/
structure Progress where
  summary : LintSummary := ⟨[], false, 0, []⟩
  warnings : List Text := []
  spans : List Span := []
  events : List LintEvent := []

/-- The diagnostics of one file that pass the floor and the configured cap. -/
def fileDiagnostics (s : Service) (floor : Severity) (text : Text) : List Diagnostic :=
  capped s.lint.maxProblems (passing floor (s.document text).1)

/-- Adds one file. One that cannot be read is a warning; the cap holds for all files together. -/
def addFile (s : Service) (tree : FileTree) (limit : Int) (floor : Option Text) (p : Progress)
    (file : Path) : Except UnknownSeverity Progress := do
  let path := file.toText
  match tree.read file path with
  | .error e =>
    return { p with warnings := p.warnings ++ ["Failed to read " ++ path ++ ": " ++ e.message] }
  | .ok text =>
    let kept := s.fileDiagnostics (← s.floor floor) text
    let count := (s.document text).2
    let (events, warnings) := s.afterLint path kept
    let room := limit - p.summary.count
    let fits := decide ((kept.length : Int) ≤ room)
    let shown := if fits then kept else kept.take room.toNat
    let span : Span := { name := "lint:" ++ file.name, counts := documentCounts count kept.length }
    return {
      summary := ⟨p.summary.diagnostics ++ shown.map (⟨·, path⟩), p.summary.truncated || !fits,
        p.summary.structs + count, p.summary.files ++ [path]⟩
      warnings := p.warnings ++ warnings
      spans := p.spans ++ [span]
      events := p.events ++ events }

def addFiles (s : Service) (tree : FileTree) (limit : Int) (floor : Option Text) (p : Progress) :
    List Path → Except UnknownSeverity Progress
  | [] => .ok p
  | file :: files => do addFiles s tree limit floor (← s.addFile tree limit floor p file) files

def selection (s : Service) : FileTree.Selection := ⟨s.lint.patterns, s.lint.excludedDirs⟩

def pathsSpan (matched : Nat) (files : List Span) : Span :=
  { name := "LintService.lint_paths"
    children :=
      ({ name := "collect_files", annotations := [("matched".toList, .nat matched)] } : Span)
      :: files }

/-- Lints files and directory trees. -/
def lintPaths (s : Service) (tree : FileTree) (paths : List Text) (cap : Option Int := none)
    (floor : Option Text := none) : Except UnknownSeverity (Outcome × List LintEvent) := do
  let (files, missing) := tree.collect s.selection paths
  let warnings := missing.map ("Path not found: ".toList ++ ·)
  if files = [] then
    let failed := Outcome.failure "lint" "NO_FILES" "No Go files found to lint" warnings
      [("paths".toList, .texts paths)]
    return (s.withSpan (pathsSpan 0 []) failed, [])
  else
    let p ← s.addFiles tree (s.limit cap) floor { warnings } files
    return (s.withSpan (pathsSpan files.length p.spans) (p.summary.outcome p.warnings), p.events)

end Service
end TagLint
