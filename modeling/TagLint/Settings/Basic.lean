import TagLint.Settings.Discovery
import TagLint.Settings.Section
import TagLint.Toml.Document

/-! All settings of a run, from the command line, the environment, the settings file and the
defaults, the earlier source winning key by key. -/
namespace TagLint
open Text

structure Settings where
  projectRoot : Path
  configPath : Option Path := none
  jsonOutput : Bool := false
  quiet : Bool := false
  verbose : Bool := false
  logJson : Bool := false
  sections : Sections := {}
deriving DecidableEq, Repr

inductive SettingsError where
  | invalid (issues : List Issue)
  | badFile (path : Text)
  | unreadable (e : FileTree.ReadError)
  | badVariable
deriving DecidableEq, Repr

def SettingsError.message : SettingsError → Text
  | invalid _ => "Invalid settings"
  | badFile path => "Invalid TOML in " ++ path
  | unreadable e => e.message
  | badVariable => "Invalid environment variable"

/-- What the command line says about settings. -/
structure Given where
  configPath : Option Text := none
  projectRoot : Option Path := none
  maxProblems : Option Json := none
  minSeverity : Option Json := none
  pluginsEnabled : Option Json := none
  /-- Flags and whatever else is given by name. -/
  others : List (Text × Json) := []

namespace Settings

def toPairs (s : Settings) : List (Text × Json) :=
  [("project_root".toList, .text s.projectRoot.toText),
    ("config_path".toList, .ofOption (s.configPath.map Path.toText)),
    ("json_output".toList, .bool s.jsonOutput), ("quiet".toList, .bool s.quiet),
    ("verbose".toList, .bool s.verbose), ("log_json".toList, .bool s.logJson)] ++ s.sections.toPairs

/-- The switches at the top of a settings file. -/
def flagNames : List Text := ["json_output", "quiet", "verbose", "log_json"]

def sectionNames : List (Text × List (Text × Bool)) := [
  ("lint", [("max_problems", false), ("min_severity", false), ("include", true),
    ("exclude_dirs", true)]),
  ("report", [("source", false), ("related_information", false)]),
  ("plugins", [("enabled", false), ("local_dir", false)])]

/-- The two paths are always given, so no variable counts for them. -/
def variableNames : VariableNames where
  start := "GORMLINT_"
  cut := "__"
  single := ["project_root".toList, "config_path".toList] ++ flagNames
  sections := sectionNames

def knownNames : List Text := variableNames.single ++ sectionNames.map (·.1)

/-- The settings file as a table. -/
def readFile (t : FileTree) (p : Path) : Except SettingsError Json.Pairs :=
  match t.read p p.toText with
  | .error e => .error (.unreadable e)
  | .ok text =>
    match Toml.parse? text with
    | some pairs => .ok pairs
    | none => .error (.badFile p.toText)

def present (pairs : List (String × Option Json)) : List (Text × Json) :=
  pairs.filterMap fun (k, v) => v.map fun v => (k.toList, v)

/-- The settings that the command line gives, as a table. -/
def Given.pairs (g : Given) : Json.Pairs :=
  let lint := present [("max_problems", g.maxProblems), ("min_severity", g.minSeverity)]
  let plugins := present [("enabled", g.pluginsEnabled)]
  (if lint.isEmpty then [] else [("lint".toList, .dict lint)])
    ++ (if plugins.isEmpty then [] else [("plugins".toList, .dict plugins)])
    ++ g.others

/-- The file given by name, or the one in effect. -/
def chosenFile (w : Surroundings) (g : Given) : Option Path × List LogWarning :=
  match g.configPath with
  | some (c :: cs) =>
    let p := Path.ofText (c :: cs)
    (if w.tree.isFile p then some p else none, [])
  | _ => Discovery.settingsFile? w g.projectRoot

/-- The directory of the settings file, else the module root, else the working directory. -/
def rootFor (w : Surroundings) (g : Given) (file : Option Path) : Path :=
  match g.projectRoot, file with
  | some p, _ => p
  | none, some f => .ofParts (w.tree.resolve f).dropLast
  | none, none => .ofParts ((Discovery.moduleRoot? w.tree none).getD w.tree.cwd)

end Settings

namespace Package
open Settings

/-- The sections of one settings file, or of the one in effect. Keys that are no section are passed
over. -/
def loadSections (p : Package) (w : Surroundings) (path from_ : Option Path) :
    Except SettingsError Sections × List LogWarning :=
  let (path, log) := match path with
    | some path => (some path, [])
    | none => Discovery.settingsFile? w from_
  let loaded := match path with
    | none => .ok {}
    | some path => do
      match p.sections (← readFile w.tree path) with
      | .ok s => .ok s
      | .error issues => .error (.invalid issues)
  (loaded, log)

/-- Settings from one table; a key that is no setting is an issue, after all others. -/
def settings (p : Package) (root : Path) (file : Option Path) (pairs : Json.Pairs) :
    Checked Settings :=
  let flag (name : String) := p.field name p.bool false pairs
  let flags := p.both (flag "json_output") (p.both (flag "quiet")
    (p.both (flag "verbose") (flag "log_json")))
  (p.both flags (p.both (p.sections pairs) (p.onlyKnown knownNames pairs))).map
    fun ((j, q, v, l), s, _) => ⟨root, file, j, q, v, l, s⟩

/-- Settings from all sources: options go before variables, and variables before the file. -/
def gathered (p : Package) (root : Path) (file : Option Path) (environment : List (Text × Text))
    (options fromFile : Json.Pairs) : Except SettingsError Settings :=
  match p.fromVariables variableNames environment with
  | none => .error .badVariable
  | some fromVars =>
    match p.settings root file (p.merged [options, fromVars, fromFile]) with
    | .ok s => .ok s
    | .error issues => .error (.invalid issues)

/-- The settings of a run. -/
def load (p : Package) (w : Surroundings) (g : Given) :
    Except SettingsError Settings × List LogWarning :=
  let (file, log) := chosenFile w g
  let fromFile := match file with
    | some path => readFile w.tree path
    | none => .ok []
  (do p.gathered (rootFor w g file) file w.environment (Given.pairs g) (← fromFile), log)

end Package

namespace Settings

def loadSections := Package.lax.loadSections

def load := Package.lax.load

end Settings
end TagLint
