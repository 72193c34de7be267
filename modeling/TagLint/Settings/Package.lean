import TagLint.Settings.Issue

/-! What settings are declared to. It checks values and gathers them from their sources. -/
namespace TagLint

/-- The entries of an object; each key stands once. -/
abbrev Json.Pairs := List (Text × Json)

/-- The names of the settings, as environment variables spell them. -/
structure VariableNames where
  /-- Stands before every name. -/
  start : Text
  /-- Stands between a section and its key. -/
  cut : Text
  /-- Settings outside of the sections. -/
  single : List Text
  /-- The sections with their keys, and whether a key takes a list. -/
  sections : List (Text × List (Text × Bool))
deriving DecidableEq, Repr

/-- A package that checks settings. The program declares them to it and does not look inside;
what it relies on is `Package.Lawful`. -/
structure Package where
  bool : Json → Checked Bool
  atLeast (least : Int) : Json → Checked Int
  text : Json → Checked Text
  texts : Json → Checked (List Text)
  /-- One of the words, each of which stands for a value. -/
  oneOf {α : Type} (words : List (Text × α)) : Json → Checked α
  /-- A value under a key, or the default when there is none. -/
  field {α : Type} (key : Text) (check : Json → Checked α) (default : α) : Json.Pairs → Checked α
  /-- An object of the class of that name. -/
  object {α : Type} (name : Text) (check : Json.Pairs → Checked α) : Json → Checked α
  /-- Both values, or the issues of both. -/
  both {α β : Type} : Checked α → Checked β → Checked (α × β)
  /-- No other keys. -/
  onlyKnown (known : List Text) : Json.Pairs → Checked Unit
  /-- The settings that variables give; nothing when one of them cannot be read. -/
  fromVariables : VariableNames → List (Text × Text) → Option Json.Pairs
  /-- Sources over each other, the first on top. -/
  merged : List Json.Pairs → Json.Pairs

end TagLint
