import TagLint.Console.Width

/-! Breaking text into lines of a given width. -/
namespace TagLint.Console
open Text

/-- A word with the blanks around it: those before it only at the start of the text. -/
def wordLength (cs : Text) : Nat :=
  let lead := (cs.takeWhile isBlank).length
  let body := ((cs.drop lead).takeWhile (!isBlank ·)).length
  let tail := ((cs.drop (lead + body)).takeWhile isBlank).length
  if body = 0 then 0 else lead + body + tail

/-- What to do with words longer than a line. -/
inductive Overflow where
  /-- Break them. -/
  | fold
  /-- Cut them, with a mark. -/
  | ellipsis
deriving DecidableEq, Repr

/-- Where lines break before and within a word that starts at `start`, and the cells that its last
line takes then. -/
def breakWord (overflow : Overflow) (limit used start : Nat) (word : Text) : List Nat × Nat :=
  let needed := width (trimRight word)
  if used + needed ≤ limit then ([], used + width word)
  else if limit < needed then
    match overflow with
    | .fold =>
      let pieces := chop limit 0 word
      let starts :=
        pieces.dropLast.foldl (fun acc p => acc ++ [acc.getLast?.getD start + p.length]) [start]
      (starts.filter (· ≠ 0), width (pieces.getLast?.getD []))
    | .ellipsis => (if start = 0 then [] else [start], width word)
  else if 0 < used ∧ 0 < start then ([start], width word)
  else ([], used)

/-- Where lines break, by the index of their first character. -/
def breaksFrom (overflow : Overflow) (limit : Nat) : Nat → Nat → Nat → Text → List Nat
  | 0, _, _, _ => []
  | fuel + 1, used, start, cs =>
    let n := wordLength cs
    if n = 0 then []
    else
      let (breaks, used) := breakWord overflow limit used start (cs.take n)
      breaks ++ breaksFrom overflow limit fuel used (start + n) (cs.drop n)

/-- The pieces between break indices. -/
def cutAt (offset : Nat) : List Nat → Text → List Text
  | [], cs => [cs]
  | b :: bs, cs => cs.take (b - offset) :: cutAt b bs (cs.drop (b - offset))

/-- Drops blanks at the end as far as the line has more characters than the limit. -/
def dropExcess (limit : Nat) (t : Text) : Text :=
  let blankEnd := t.length - (trimRight t).length
  t.take (t.length - min blankEnd (t.length - limit))

/-- A line that is too wide is cut. -/
def truncate (overflow : Overflow) (limit : Nat) (t : Text) : Text :=
  if width t ≤ limit then t
  else match overflow with
    | .fold => setWidth limit t
    | .ellipsis => setWidth (limit - 1) t ++ [Char.ofNat 0x2026]

/-- The lines of a text without line ends. -/
def wrapLine (overflow : Overflow) (oneLine : Bool) (limit : Nat) (t : Text) : List Text :=
  let t := if '\t' ∈ t then expandTabs 0 t else t
  let parts := if oneLine then [t] else cutAt 0 (breaksFrom overflow limit t.length 0 0 t) t
  parts.map fun part => truncate overflow limit (dropExcess limit part)

/-- The lines of a text. -/
def wrap (overflow : Overflow) (oneLine : Bool) (limit : Nat) (t : Text) : List Text :=
  (lines t).flatMap (wrapLine overflow oneLine limit)

/-- Lines on the console are this wide at most. -/
def lineWidth : Nat := 120

/-- A text as lines on the console. -/
def print (t : Text) : List Text := wrap .fold false lineWidth (clean t)

end TagLint.Console
