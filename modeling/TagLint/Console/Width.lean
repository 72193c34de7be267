import TagLint.Console.WidthTable
import TagLint.Text.Basic

/-! How many cells of a terminal line a text takes. -/
namespace TagLint.Console
open Text

def charWidth (c : Char) : Nat :=
  if c.toNat < 128 then (if 32 ≤ c.toNat ∧ c.toNat < 127 then 1 else 0)
  else if inRanges zeroWidthRanges c then 0
  else if inRanges wideRanges c then 2
  else 1

def joiner : Char := Char.ofNat 0x200D

/-- A joined character takes no cells of its own. -/
def width : Text → Nat
  | [] => 0
  | c :: cs =>
    if c = joiner then
      match cs with
      | [] => 0
      | _ :: rest => width rest
    else charWidth c + width cs

/-- The longest start that fits into so many cells. -/
def takeCells : Nat → Text → Text
  | _, [] => []
  | n, c :: cs => if charWidth c ≤ n then c :: takeCells (n - charWidth c) cs else []

def blanks (n : Nat) : Text := List.replicate n ' '

/-- Cut or filled up to exactly this many cells. A wide character at the cut leaves a blank. -/
def setWidth (n : Nat) (t : Text) : Text :=
  let kept := if width t ≤ n then t else takeCells n t
  kept ++ blanks (n - width kept)

/-- Pieces of at most this many cells. -/
def chop (n : Nat) (used : Nat) : Text → List Text
  | [] => [[]]
  | c :: cs =>
    if n < used + charWidth c then [] :: startWith c (chop n (charWidth c) cs)
    else startWith c (chop n (used + charWidth c) cs)
where
  startWith (c : Char) : List Text → List Text
    | [] => [[c]]
    | piece :: pieces => (c :: piece) :: pieces

/-- Blanks up to the next multiple of eight cells take the place of a tab. -/
def expandTabs (column : Nat) : Text → Text
  | [] => []
  | '\t' :: cs =>
    let n := 8 - column % 8
    blanks n ++ expandTabs (column + n) cs
  | c :: cs => c :: expandTabs (column + charWidth c) cs

/-- The control characters that text on a console may not hold. -/
def isDropped (c : Char) : Bool := [7, 8, 11, 12, 13].contains c.toNat

/-- Text without the control characters that would move the cursor. -/
def clean (t : Text) : Text := t.filter (!isDropped ·)

end TagLint.Console
