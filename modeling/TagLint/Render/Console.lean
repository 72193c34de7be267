import TagLint.Console.Markup
import TagLint.Console.Table
import TagLint.Json.Printer
import TagLint.Render.Printer

/-! The printer of a run: a console without colours, 120 columns wide. -/
namespace TagLint
open Text Render

namespace Render

/-- Text with style tags, without them. -/
def unmarked (t : Text) : Rendered Text :=
  match Console.Markup.plain t with
  | .ok t => .ok t
  | .error _ => .error .markup

end Render

def Part.plain : Part → Rendered Text
  | literal t => .ok t
  | marked t => unmarked t

def Printer.Column.plain (c : Column) : Rendered Console.Column := do
  return ⟨c.title, c.oneLine, ← c.cells.mapM Part.plain⟩

def Printer.console : Printer where
  written t := .ok (Json.quote false t)
  document v := .ok (v.pretty 0)
  shown := unmarked
  lines parts := do return Console.print (join " " (← parts.mapM Part.plain))
  table columns := do return Console.Table.print (← columns.mapM Column.plain)

end TagLint
