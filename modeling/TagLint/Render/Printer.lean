import TagLint.Json.Basic

/-! What outcomes are printed with. -/
namespace TagLint

/-- Why an outcome has no text. -/
inductive RenderError where
  | missingKey (name : Text)
  | markup
  /-- A value is not of the kind that the operation makes. -/
  | shape
deriving DecidableEq, Repr

abbrev Render.Rendered (α : Type) := Except RenderError α

open Render

/-- A part of what is printed. -/
inductive Part where
  /-- A text as it stands. -/
  | literal (t : Text)
  /-- A text in which style tags count. -/
  | marked (t : Text)
deriving DecidableEq, Repr

structure Printer.Column where
  title : Text
  /-- Cells stay on one line, and the column does not give way to others. -/
  oneLine : Bool := false
  cells : List Part
deriving DecidableEq, Repr

/-- A writer of documents and a console. The program hands them its texts and does not look inside;
what it relies on is `Printer.Lawful`. -/
structure Printer where
  /-- A text inside a document. -/
  written : Text → Rendered Text
  /-- A document on several lines. -/
  document : Json → Rendered Text
  /-- What a text shows in which style tags count. -/
  shown : Text → Rendered Text
  /-- The lines of parts with a blank between them. -/
  lines : List Part → Rendered (List Text)
  /-- The lines of a table. -/
  table : List Printer.Column → Rendered (List Text)

end TagLint
