import TagLint.Command.Line
import TagLint.Plugin.Local
import TagLint.Render.Output
import TagLint.Service.Report
import TagLint.Settings.Basic

/-! One run of the program: what it prints, what it logs, and how it ends. -/
namespace TagLint.Command
open Text

/-- Why a run breaks off without a word of its own. -/
inductive Breakdown where
  | settings (e : SettingsError)
  | render (e : RenderError)
deriving DecidableEq, Repr

structure Run where
  exit : Nat := 0
  stdout : Text := []
  stderr : Text := []
  log : List LogWarning := []
  events : List LintEvent := []
  breakdown : Option Breakdown := none
deriving DecidableEq, Repr

namespace Run

def refused (command : Option CommandName) (fault : UsageFault) : Run :=
  { exit := 2, stderr := Page.refusal command fault }

def failed (message : Text) : Run := { exit := 1, stderr := "Error: " ++ message ++ "\n" }

def broken (b : Breakdown) : Run := { exit := 1, breakdown := some b }

/-- Puts earlier messages before those of the run. -/
def after (log : List LogWarning) (r : Run) : Run := { r with log := log ++ r.log }

def page (command : Option CommandName) : PageName → Run
  | .help => { stdout := Page.help command }
  | .version => { stdout := Page.versionText }
  | .examples => { stdout := (command.map Page.examples).getD [] }

/-- Prints an outcome. Its warnings go beside it, unless the document has them. -/
def ofOutcome (s : Settings) (o : Outcome) (events : List LintEvent) : Run :=
  match o.render (.ofFlags s.jsonOutput s.quiet s.verbose) with
  | .error e => { Run.broken (.render e) with events }
  | .ok text =>
    let warnings : Text :=
      if s.jsonOutput then [] else o.warnings.flatMap fun w => "WARNING: " ++ w ++ "\n"
    if o.ok then { stdout := text ++ ['\n'], stderr := warnings, events }
    else { exit := 1, stderr := text ++ ['\n'], events }

end Run

/-- The settings that the options before the command ask for. -/
def givenOf (r : Reader) (tree : FileTree) (line : r.Line) : TagLint.Given where
  configPath := r.text? line .config
  projectRoot := (r.text? line .projectRoot).map fun p => .ofParts (tree.resolve (.ofText p))
  maxProblems := (r.whole? line .maxProblems).map .int
  minSeverity := (r.text? line .minSeverity).map .text
  pluginsEnabled := (r.either? line .plugins .noPlugins).map .bool
  others := [("json_output".toList, .bool (r.flag line .json)),
    ("quiet".toList, .bool (r.flag line .quiet)), ("verbose".toList, .bool (r.flag line .verbose)),
    ("log_json".toList, .bool (r.flag line .logJson))]

/-- The service with the plugins of the project, when they are enabled. -/
def serviceOf (tree : FileTree) (s : Settings) : Service × List LogWarning :=
  let service : Service :=
    { lint := s.sections.lint, report := s.sections.report, tracing := s.verbose }
  if s.sections.plugins.enabled then
    let dir := s.projectRoot.append (.ofText s.sections.plugins.localDir)
    let loaded := ({} : Host).load {} (LocalFile.allIn tree {} dir)
    ({ service with registry := loaded.registry, host := some loaded.host }, loaded.log)
  else (service, [])

/-- The text of a file, or of the standard input for a hyphen. -/
def readSource (w : Surroundings) (file : Text) : Except Text Text :=
  if file = ['-'] then .ok (unifyNewlines w.stdin)
  else match w.tree.readTyped file with
    | .ok t => .ok t
    | .error e => .error ("Failed to read " ++ file ++ ": " ++ e.message)

def uriOf (tree : FileTree) (file : Text) : Text :=
  if file = ['-'] then "untitled:stdin" else (Path.ofParts (tree.resolve (.ofText file))).address

/-- Prints the outcome of linting. The floor is one of the two severities. -/
def runLint (s : Settings) (result : Except UnknownSeverity (Outcome × List LintEvent)) : Run :=
  match result with
  | .ok (o, events) => .ofOutcome s o events
  | .error e => .failed e.message

/-- Carries out a request. A report reads its file before plugins are loaded, a look-up after. -/
def runRequest (w : Surroundings) (s : Settings) (r : Request) : Run :=
  let (service, log) := serviceOf w.tree s
  match r with
  | .check paths cap floor =>
    .after log <| runLint s <|
      if paths = [['-']] then service.lintText (unifyNewlines w.stdin) Service.stdinPath cap floor
      else service.lintPaths w.tree paths cap floor
  | .keys kind => .after log (.ofOutcome s (service.keys kind) [])
  | .locate file structName fieldName key =>
    .after log <| match readSource w file with
      | .ok text => .ofOutcome s (service.locate text structName fieldName key) []
      | .error message => .failed message
  | .report file uri cap =>
    match readSource w file with
    | .ok text =>
      .after log (.ofOutcome s (service.reportText text (uri.getD (uriOf w.tree file)) cap) [])
    | .error message => .failed message

def runCommand (w : Surroundings) (s : Settings) (c : CommandName) (args : List Text) : Run :=
  match readCommand w.tree c args with
  | .error fault => .refused (some c) fault
  | .ok (.page p) => .page (some c) p
  | .ok (.run r) => runRequest w s r

/-- Loads the settings and goes on with them. -/
def withSettings (w : Surroundings) (s : Scanned) (next : Settings → Run) : Run :=
  let (loaded, log) := Settings.load w (givenOf .scanner w.tree s)
  .after log <| match loaded with
    | .ok settings => next settings
    | .error (.badFile path) => .failed (SettingsError.badFile path).message
    | .error e => .broken (.settings e)

/-- Without a command of this name, options among the words are read once more. -/
def runUnknown (tree : FileTree) (words : List Text) (name : Text) : Run :=
  match readProgram tree words with
  | .error fault => .refused none fault
  | .ok (.page p) => .page none p
  | .ok (.run _) =>
    .refused none (.noSuchCommand name (closeTo name (CommandName.all.map (·.text))))

/-- One run of the program. Without a command it shows its help. -/
def run (w : Surroundings) (args : List Text) : Run :=
  match readProgram w.tree args with
  | .error fault => .refused none fault
  | .ok (.page p) => .page none p
  | .ok (.run s) =>
    match s.arguments with
    | [] => withSettings w s fun _ => .page none .help
    | name :: rest =>
      match CommandName.ofText? name with
      | none => runUnknown w.tree (name :: rest) name
      | some c => withSettings w s fun settings => runCommand w settings c rest

end TagLint.Command
