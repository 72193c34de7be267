import TagLint.Command.Page
import TagLint.Command.Reader
import TagLint.Vocabulary
import TagLint.Diagnostic

/-! From the arguments to what is asked for. -/
namespace TagLint.Command
open Text

/-- What one run of a command does. -/
inductive Request where
  | check (paths : List Text) (cap : Option Int) (floor : Option Text)
  | keys (kind : Option Text)
  | locate (file structName fieldName : Text) (key : Option Text)
  | report (file : Text) (uri : Option Text) (cap : Option Int)
deriving DecidableEq, Repr

def severities : List Text := [Severity.warning.name, Severity.error.name]

namespace OptionSpec

def flag (name : OptionName) (forms : List String) : OptionSpec :=
  ⟨name, forms.map String.toList, none⟩

def value (name : OptionName) (form : String) (kind : ValueKind) : OptionSpec :=
  ⟨name, [form.toList], some kind⟩

def maxProblems : OptionSpec := value .maxProblems "--max-problems" .positive

def minSeverity : OptionSpec := value .minSeverity "--min-severity" (.choice severities)

/-- The options before the command. -/
def ofProgram : List OptionSpec := [
  flag .version ["--version"], flag .json ["--json"], flag .quiet ["-q", "--quiet"],
  flag .verbose ["-v", "--verbose"], flag .logJson ["--log-json"],
  ⟨.config, ["-c".toList, "--config".toList], some .file⟩,
  value .projectRoot "--project-root" .directory, maxProblems, minSeverity,
  flag .plugins ["--plugins"], flag .noPlugins ["--no-plugins"], flag .help ["--help"]]

def ofCommand (c : CommandName) : List OptionSpec :=
  (match c with
    | .check => [maxProblems, minSeverity, flag .errorsOnly ["--errors-only"]]
    | .keys => [value .kind "--kind" (.choice (KeyClass.all.map KeyClass.name))]
    | .locate => [value .key "--key" .text]
    | .report => [value .uri "--uri" .text, maxProblems])
  ++ [flag .examples ["--examples"], flag .help ["--help"]]

end OptionSpec

namespace Scanned

/-- The first page that is asked for. -/
def page? (s : Scanned) : Option PageName :=
  s.options.findSome? fun o => match o.spec.name with
    | .help => some .help
    | .version => some .version
    | .examples => some .examples
    | _ => none

def whole? (s : Scanned) (name : OptionName) : Option Int := (s.value? name).bind wholeOfText?

/-- Two options overrule each other; the last one counts. -/
def either? (s : Scanned) (on off : OptionName) : Option Bool :=
  (s.options.reverse.find? fun o => o.spec.name = on ∨ o.spec.name = off).map (·.spec.name = on)

/-- A page, or else the options checked. -/
def checked (tree : FileTree) (s : Scanned) : Scan (Asked Scanned) :=
  match s.page? with
  | some p => .ok (.page p)
  | none =>
    match s.fault? tree with
    | some fault => .error fault
    | none => .ok (.run s)

end Scanned

def Reader.scanner : Reader where
  Line := Scanned
  read tree specs mixed args := do (← scan specs mixed args).checked tree
  has := Scanned.has
  flag := Scanned.has
  text? := Scanned.value?
  whole? := Scanned.whole?
  either? := Scanned.either?

/-- Reads the options before the command. -/
def readProgram (tree : FileTree) (args : List Text) : Scan (Asked Scanned) :=
  Reader.scanner.read tree OptionSpec.ofProgram false args

/-- The request of a command from its options and arguments. -/
def requestOf (c : CommandName) (s : Scanned) : Scan Request :=
  let cap := s.whole? .maxProblems
  match c, s.arguments with
  | .check, [] => .error (.missingArgument "PATHS...")
  | .check, paths =>
    .ok (.check paths cap
      (if s.has .errorsOnly then some Severity.error.name else s.value? .minSeverity))
  | .keys, [] => .ok (.keys (s.value? .kind))
  | .locate, [file, structName, fieldName] =>
    .ok (.locate file structName fieldName (s.value? .key))
  | .report, [file] => .ok (.report file (s.value? .uri) cap)
  | .locate, [] => .error (.missingArgument "FILE")
  | .locate, [_] => .error (.missingArgument "STRUCT")
  | .locate, [_, _] => .error (.missingArgument "FIELD")
  | .report, [] => .error (.missingArgument "FILE")
  | .keys, extra => .error (.extraArguments extra)
  | .locate, _ :: _ :: _ :: extra => .error (.extraArguments extra)
  | .report, _ :: extra => .error (.extraArguments extra)

/-- Reads what follows the command. -/
def readCommand (tree : FileTree) (c : CommandName) (args : List Text) : Scan (Asked Request) := do
  match ← Reader.scanner.read tree (OptionSpec.ofCommand c) true args with
  | .page p => return .page p
  | .run s => return .run (← requestOf c s)

end TagLint.Command
