import TagLint.Console.Wrap
import TagLint.Decimal.Basic

/-! Tables with a heavy header, fitted to the width of the console. -/
namespace TagLint.Console
open Text

structure Column where
  title : Text
  /-- Cells stay on one line, and the column does not give way to others. -/
  oneLine : Bool := false
  cells : List Text

abbrev Table := List Column

/-- Where lines end when a cell is measured. -/
def isLineEnd (c : Char) : Bool :=
  [0x0A, 0x0B, 0x0C, 0x0D, 0x1C, 0x1D, 0x1E, 0x85, 0x2028, 0x2029].contains c.toNat

def splitLines (t : Text) : List Text :=
  split '\n' (t.map fun c => if isLineEnd c then '\n' else c)

def widest (t : Text) : Nat := ((splitLines t).map width).foldl max 0

namespace Column

/-- The title and the cells below it. -/
def content (c : Column) : List Text := (c.title :: c.cells).map clean

def natural (c : Column) : Nat := (c.content.map widest).foldl max 0

end Column

namespace Table

/-- Blanks before and after a cell; the outer edges have none. -/
def padding (n i : Nat) : Nat × Nat := (if i = 0 then 0 else 1, if i + 1 = n then 0 else 1)

def total (ws : List Nat) : Nat := ws.foldl (· + ·) 0

/-- Takes `excess` away from the columns in proportion to their shares. -/
def reduce : Nat → List (Nat × Nat × Nat) → List Nat
  | _, [] => []
  | excess, (share, most, w) :: rest =>
    let shares := total (((share, most, w) :: rest).map (·.1))
    if share = 0 then w :: reduce excess rest
    else
      let taken := min most (Decimal.roundDiv (share * excess) shares)
      (w - taken) :: reduce (excess - taken) rest

/-- The widest columns that may shrink give way until they are as narrow as the next ones. -/
def collapse : Nat → Nat → List (Nat × Bool) → List (Nat × Bool)
  | 0, _, columns => columns
  | fuel + 1, limit, columns =>
    let width := total (columns.map (·.1))
    let free := (columns.filter (·.2)).map (·.1)
    let widest := free.foldl max 0
    let next := (free.filter (· ≠ widest)).foldl max 0
    if width ≤ limit ∨ widest = next then columns
    else
      let excess := width - limit
      let most := min excess (widest - next)
      let shares := columns.map fun (w, may) => (if may && w == widest then 1 else 0, most, w)
      collapse fuel limit ((reduce excess shares).zip (columns.map (·.2)))

/-- The widths of the columns with padding, so that all of them fit. -/
def widths (t : Table) : List Nat :=
  let limit := lineWidth - (t.length + 1)
  let natural := t.mapIdx fun i c =>
    let (l, r) := padding t.length i
    max 1 (min limit (c.natural + l + r))
  if total natural ≤ limit then natural
  else
    let shrunk := (collapse lineWidth limit (natural.zip (t.map (!·.oneLine)))).map (·.1)
    let excess := total shrunk - limit
    let fitted := if excess = 0 then shrunk else reduce excess (shrunk.map fun w => (min 1 w, w, w))
    fitted.zipWith min natural

/-- The lines of a cell, each as wide as the column. -/
def cellLines (oneLine : Bool) (w left right : Nat) (t : Text) : List Text :=
  let inner := w - left - right
  (wrap .ellipsis oneLine inner t).map fun line =>
    blanks left ++ setWidth inner line ++ blanks right

/-- Puts cells side by side; short ones are filled up with blank lines. -/
def rowLines (line : Char) (cells : List (Nat × List Text)) : List Text :=
  let height := (cells.map (·.2.length)).foldl max 1
  (List.range height).map fun i =>
    [line] ++ join [line] (cells.map fun (w, lines) => lines.getD i (blanks w)) ++ [line]

def rule (left fill cross right : Char) (widths : List Nat) : Text :=
  [left] ++ join [cross] (widths.map fun w => List.replicate w fill) ++ [right]

/-- The lines of one row; the titles are row zero. -/
def row (t : Table) (widths : List Nat) (line : Char) (number : Nat) : List Text :=
  rowLines line ((t.zip widths).mapIdx fun i (c, w) =>
    let (l, r) := padding t.length i
    (w, cellLines c.oneLine w l r (c.content.getD number [])))

def height (t : Table) : Nat := (t.map (·.cells.length)).foldl max 0

/-- The table as lines on the console. -/
def print (t : Table) : List Text :=
  let ws := t.widths
  [rule '┏' '━' '┳' '┓' ws] ++ t.row ws '┃' 0 ++ [rule '┡' '━' '╇' '┩' ws]
    ++ (List.range t.height).flatMap (fun i => t.row ws '│' (i + 1))
    ++ [rule '└' '─' '┴' '┘' ws]

end Table
end TagLint.Console
