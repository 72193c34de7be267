import TagLint.Command.Option

/-! What command lines are read with. -/
namespace TagLint.Command

/-- Something to read instead of a run. -/
inductive PageName where
  | help
  | version
  | examples
deriving DecidableEq, Repr

inductive Asked (α : Type) where
  | page (name : PageName)
  | run (what : α)

/-- A reader of command lines. The program declares its options to it and does not look inside;
what it relies on is `Reader.Lawful`. -/
structure Reader where
  /-- What is known of a line that was read. -/
  Line : Type
  /-- Reads options up to the first argument that is none, or among all arguments. -/
  read (tree : FileTree) (specs : List OptionSpec) (mixed : Bool) (args : List Text) :
    Scan (Asked Line)
  /-- The option stands on the line. -/
  has : Line → OptionName → Bool
  /-- The value of an option that takes none. -/
  flag : Line → OptionName → Bool
  text? : Line → OptionName → Option Text
  whole? : Line → OptionName → Option Int
  /-- The value of two options that overrule each other. -/
  either? (line : Line) (on off : OptionName) : Option Bool

end TagLint.Command
