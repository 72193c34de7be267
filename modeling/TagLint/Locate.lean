import TagLint.Range
import TagLint.Struct.Extract
import TagLint.Tag.Segment

/-! From a struct, a field and a key back to the range that shows them. -/
namespace TagLint.Locate
open Text

/-- Whether the name stands after some of the blanks that start the text, and before the keyword. -/
def namedHere (name cs : Text) : Bool :=
  match cs with
  | [] => false
  | c :: cs =>
    isBlank c && (here cs || namedHere name cs)
where
  here (cs : Text) : Bool :=
    match (after? name cs).bind afterBlanks? with
    | some rest =>
      match after? "struct" rest with
      | some (d :: _) => !isWord d
      | some [] => true
      | none => false
    | none => false

/-- The column of the first header for this name on a line. -/
def headerColumn? (name : Text) (previous : Option Char) : Text → Option Nat
  | [] => none
  | c :: cs =>
    if Header.boundary previous && ((after? "type" (c :: cs)).map (namedHere name)).getD false then
      some 0
    else (headerColumn? name (some c) cs).map (· + 1)

/-- The line and the column of the struct's name. -/
def structLine? (name : Text) : List Text → Option (Nat × Nat)
  | [] => none
  | line :: rest =>
    match headerColumn? name none line with
    | some column => some (0, (findFrom? name (column + 4) line).getD 0)
    | none => (structLine? name rest).map fun (i, column) => (i + 1, column)

/-- A line of a struct's body. The first one is the rest of the header line. -/
structure BodyLine where
  number : Nat
  /-- Where the part that belongs to the body starts. -/
  offset : Nat
  segment : Text
  /-- How deep the line starts; direct fields stand at 1. -/
  depth : Int
deriving DecidableEq, Repr

/-- The body lines after the header line, up to the one that closes the struct. -/
def bodyLinesFrom (number : Nat) (depth : Int) : List Text → List BodyLine
  | [] => []
  | line :: rest =>
    if depth ≤ 0 ∨ (trim line = ['}'] ∧ depth ≤ 1) then []
    else ⟨number, 0, line, depth⟩ :: bodyLinesFrom (number + 1) (depth + Brace.delta line) rest

/-- The body lines of the struct whose header stands on the first of these lines. -/
def bodyLines (number : Nat) : List Text → List BodyLine
  | [] => []
  | header :: rest =>
    match header.findIdx? (· == '{') with
    | none => []
    | some brace =>
      let segment := header.drop (brace + 1)
      ⟨number, brace + 1, segment, 1⟩ :: bodyLinesFrom (number + 1) (1 + Brace.delta segment) rest

/-- Direct fields go before those of nested structs. -/
def searchOrder (body : List BodyLine) : List BodyLine :=
  body.filter (·.depth = 1) ++ body.filter (1 < ·.depth)

/-- The column of the key after the gorm mark. -/
def keyColumn? (key line : Text) (offset : Nat) : Option Nat := do
  let mark ← findFrom? Segment.mark offset line
  findFrom? key (mark + Segment.mark.length) line

/-- The range of a key, or of the field name, on the line of the field. -/
def onFieldLine (b : BodyLine) (line field : Text) (key : Option Text) : Range :=
  match key.bind fun k => if k = [] then none
    else (keyColumn? k line b.offset).map (·, k.length) with
  | some (column, length) => .onLine b.number column length
  | none =>
    .onLine b.number ((findFrom? field b.offset line).map Int.ofNat |>.getD (-1)) field.length

/-- The range for a key of a field: the key, else the field name, else the struct name, else the
empty range at the start. -/
def range (t name field : Text) (key : Option Text) : Range :=
  if t = [] ∨ name = [] then {}
  else
    let all := lines t
    match structLine? name all with
    | none => {}
    | some (number, column) =>
      let body := bodyLines number (all.drop number)
      match if field = [] then none
        else (searchOrder body).find? fun b => field.isPrefixOf (trim b.segment) with
      | some b => onFieldLine b (all.getD b.number []) field key
      | none => .onLine number column name.length

end TagLint.Locate
