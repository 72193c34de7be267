import TagLint.FileTree.Basic
import TagLint.Plugin.Basic

/-! Where the settings file and the module root are found: upwards from a directory, and never past
the directory that holds the module file. -/
namespace TagLint
open Text

/-- What surrounds a run: files, environment variables, standard input. -/
structure Surroundings where
  tree : FileTree := {}
  environment : List (Text × Text) := []
  stdin : Text := []
deriving Inhabited

namespace Discovery

def fileNames : List Text := ["gormlint.toml", ".gormlint.toml"]

def variable_ : Text := "GORMLINT_CONFIG"

def moduleFile : Text := "go.mod"

/-- A directory and all above it, the nearest first. -/
def ancestors (dir : List Text) : List (List Text) :=
  (List.range (dir.length + 1)).reverse.map dir.take

def holds (t : FileTree) (dir : List Text) (name : Text) : Bool :=
  t.isFile (Path.ofParts (dir ++ [name]))

def start (t : FileTree) (p : Option Path) : List Text :=
  match p with
  | some p => t.resolve p
  | none => t.cwd

/-- The nearest directory with a module file. -/
def moduleRoot? (t : FileTree) (from_ : Option Path) : Option (List Text) :=
  (ancestors (start t from_)).find? fun dir => holds t dir moduleFile

/-- The settings file of the first directory that has one. -/
def searchUp (t : FileTree) : List (List Text) → Option (List Text)
  | [] => none
  | dir :: rest =>
    match fileNames.find? (holds t dir) with
    | some name => some (dir ++ [name])
    | none => if holds t dir moduleFile then none else searchUp t rest

/-- The settings file in effect. One named in the environment goes first, and when it is missing
there is none. -/
def settingsFile? (w : Surroundings) (from_ : Option Path) : Option Path × List LogWarning :=
  match (w.environment.find? (·.1 = variable_)).map (·.2) with
  | some (c :: cs) =>
    let p := Path.ofText (c :: cs)
    if w.tree.isFile p then (some p, [])
    else (none, [⟨variable_ ++ " points to a missing file: " ++ (c :: cs)⟩])
  | _ => ((searchUp w.tree (ancestors (start w.tree from_))).map Path.ofParts, [])

end Discovery
end TagLint
