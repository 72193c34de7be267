import TagLint.FileTree.Basic
import TagLint.FileTree.Glob

/-! The files that path arguments stand for. -/
namespace TagLint.FileTree

/-- What a directory walk takes and where it does not go. -/
structure Selection where
  patterns : List Text
  excludedDirs : List Text

def Selection.takes (s : Selection) (name : Text) : Bool := s.patterns.any (Glob.isMatch · name)

/-- A link to a directory is neither a file nor walked into. It is followed from the path under
which the directory is walked. -/
def leadsToDir (t : FileTree) (shown : Path) : Text × Node → Bool
  | (_, .dir) => true
  | (_, .file _) => false
  | (name, .link _) => t.isDir (shown.child name)

/-- The files of a directory before those of its subdirectories, both sorted by name. -/
def walk (t : FileTree) (s : Selection) : Nat → List Text → Path → List Path
  | 0, _, _ => []
  | depth + 1, dir, shown =>
    let entries := t.children dir
    let files := (entries.filter fun e => !t.leadsToDir shown e).map (·.1)
    let dirs := (entries.filter fun e => e.2 = .dir && !s.excludedDirs.contains e.1).map (·.1)
    ((sorted files).filter s.takes).map shown.child
      ++ (sorted dirs).flatMap fun name => walk t s depth (dir ++ [name]) (shown.child name)

/-- No path is longer. -/
def depth (t : FileTree) : Nat := (t.entries.map (·.1.length)).foldl max 0 + 1

/-- The files of one argument; `none` when it is neither file nor directory. -/
def expand? (t : FileTree) (s : Selection) (argument : Text) : Option (List Path) :=
  let p := Path.ofText argument
  match t.stat p with
  | .ok (_, .file _) => some [p]
  | .ok (dir, .dir) => some (t.walk s t.depth dir p)
  | _ => none

/-- Keeps the first of the paths that lead to one file. -/
def dropRepeated (t : FileTree) (seen : List (List Text)) : List Path → List Path
  | [] => []
  | p :: ps =>
    let real := t.resolve p
    if real ∈ seen then dropRepeated t seen ps else p :: dropRepeated t (real :: seen) ps

/-- The files of all arguments, and the arguments that stand for none. -/
def collect (t : FileTree) (s : Selection) (arguments : List Text) : List Path × List Text :=
  (t.dropRepeated [] (arguments.flatMap fun a => (t.expand? s a).getD []),
    arguments.filter fun a => (t.expand? s a).isNone)

end TagLint.FileTree
