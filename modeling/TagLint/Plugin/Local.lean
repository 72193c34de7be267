import TagLint.FileTree.Collect
import TagLint.Plugin.Description

/-! The plugin files of a directory. -/
namespace TagLint.LocalFile
open Text

def ending : Text := ".py"

def hasEnding (name : Text) : Bool := ending.isSuffixOf name

/-- A name without its last ending. A dot at the start begins no ending. -/
def stemOf (name : Text) : Text := if name = ending then name else name.dropLast.dropLast.dropLast

def ofName (t : FileTree) (known : RuleBook) (dir : Path) (name : Text) : LocalFile :=
  let path := dir.child name
  let content := match t.read path path.toText with
    | .ok text => PluginModule.ofText known text
    | .error _ => .broken
  ⟨path.toText, name, stemOf name, content⟩

/-- The plugin files directly in a directory, sorted by name. -/
def allIn (t : FileTree) (known : RuleBook) (dir : Path) : List LocalFile :=
  match t.stat dir with
  | .ok (parts, .dir) =>
    let names := (t.children parts).map (·.1)
    ((FileTree.sorted names).filter hasEnding).map (ofName t known dir)
  | _ => []

end TagLint.LocalFile
