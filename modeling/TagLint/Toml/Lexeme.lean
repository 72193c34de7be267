import TagLint.Json.Parser

/-! The pieces of a settings file: blanks, comments, keys, strings, numbers, dates. Every reader
gives what it read and the rest, or nothing where the file is not well formed. -/
namespace TagLint.Toml
open Text

def isGap (c : Char) : Bool := c == ' ' || c == '\t'

def isControl (c : Char) : Bool := c.toNat < 32 || c.toNat == 127

def skipGap (cs : Text) : Text := cs.dropWhile isGap

/-- A comment runs to the end of its line and holds no control character but tabs. -/
def skipComment? (cs : Text) : Option Text :=
  match cs with
  | '#' :: r =>
    if (r.takeWhile (· != '\n')).any (fun c => isControl c && c != '\t') then none
    else some (r.dropWhile (· != '\n'))
  | _ => some cs

/-- Blanks, newlines and comments, as they may stand in an array. -/
def skipLines? : Nat → Text → Option Text
  | 0, _ => none
  | fuel + 1, cs =>
    match cs.dropWhile (fun c => isGap c || c == '\n') with
    | '#' :: r => (skipComment? ('#' :: r)).bind (skipLines? fuel)
    | r => some r

def isBareKeyChar (c : Char) : Bool := c.isAlphanum || c == '-' || c == '_'

/-- The text before `close`, and what follows it. -/
def until? (close : Text) (allowed : Char → Bool) (cs : Text) : Option (Text × Text) := do
  let n ← find? close cs
  if (cs.take n).all (fun c => !isControl c || allowed c) then
    some (cs.take n, cs.drop (n + close.length))
  else none

def scalar? (width : Nat) (cs : Text) : Option (Char × Text) := do
  if cs.length < width then none
  else
    let n ← Json.hexNumber? (cs.take width)
    if n < 0xD800 ∨ (0xE000 ≤ n ∧ n < 0x110000) then some (Char.ofNat n, cs.drop width) else none

def simpleEscape? (c : Char) : Option Char :=
  match c with
  | 'b' => some '\x08'
  | 't' => some '\t'
  | 'n' => some '\n'
  | 'f' => some '\x0c'
  | 'r' => some '\r'
  | '"' => some '"'
  | '\\' => some '\\'
  | _ => none

/-- What an escape stands for, after its backslash. In a text of several lines a backslash at the
end of a line takes the line end and the blanks after it away. -/
def escape? (multiline : Bool) (cs : Text) : Option (Text × Text) :=
  match cs with
  | [] => none
  | 'u' :: r => (scalar? 4 r).map fun (c, r) => ([c], r)
  | 'U' :: r => (scalar? 8 r).map fun (c, r) => ([c], r)
  | c :: r =>
    if multiline && (isGap c || c == '\n') then
      let r := if c = '\n' then c :: r else skipGap r
      match r with
      | [] => some ([], [])
      | '\n' :: r => some ([], r.dropWhile fun c => isGap c || c == '\n')
      | _ => none
    else (simpleEscape? c).map fun d => ([d], r)

/-- The rest of a text in double quotes. -/
def basic? (multiline : Bool) : Nat → Text → Option (Text × Text)
  | 0, _ => none
  | fuel + 1, cs =>
    match cs with
    | [] => none
    | '"' :: r =>
      if multiline then
        match r with
        | '"' :: '"' :: r => some ([], r)
        | _ => (basic? multiline fuel r).map fun (t, r) => ('"' :: t, r)
      else some ([], r)
    | '\\' :: r => do
      let (piece, r) ← escape? multiline r
      let (t, r) ← basic? multiline fuel r
      some (piece ++ t, r)
    | c :: r =>
      if isControl c && c != '\t' && !(multiline && c == '\n') then none
      else (basic? multiline fuel r).map fun (t, r) => (c :: t, r)

def basicLine? (cs : Text) : Option (Text × Text) := basic? false (cs.length + 1) cs

def literalLine? (cs : Text) : Option (Text × Text) := until? ['\''] (· == '\t') cs

/-- One or two quotes right before the closing ones belong to the text. -/
def extraQuotes (quote : Char) (t cs : Text) : Text × Text :=
  let extra := ((cs.take 2).takeWhile (· == quote)).length
  (t ++ List.replicate extra quote, cs.drop extra)

/-- A newline right after the opening quotes does not count. -/
def dropFirstNewline : Text → Text
  | '\n' :: cs => cs
  | cs => cs

def basicLines? (cs : Text) : Option (Text × Text) :=
  let cs := dropFirstNewline cs
  (basic? true (cs.length + 1) cs).map fun (t, r) => extraQuotes '"' t r

def literalLines? (cs : Text) : Option (Text × Text) :=
  (until? "'''" (fun c => c == '\t' || c == '\n') (dropFirstNewline cs)).map fun (t, r) =>
    extraQuotes '\'' t r

def keyPart? (cs : Text) : Option (Text × Text) :=
  match cs with
  | '"' :: r => basicLine? r
  | '\'' :: r => literalLine? r
  | _ =>
    let part := cs.takeWhile isBareKeyChar
    if part = [] then none else some (part, cs.dropWhile isBareKeyChar)

/-- The parts of a key between dots, blanks allowed around them. -/
def key? : Nat → Text → Option (List Text × Text)
  | 0, _ => none
  | fuel + 1, cs => do
    let (part, r) ← keyPart? cs
    match skipGap r with
    | '.' :: r =>
      let (parts, r) ← key? fuel (skipGap r)
      some (part :: parts, r)
    | r => some ([part], r)

/-- Digits, where one underscore may stand between two of them. -/
def digitRun (digit : Char → Bool) : Text → Text
  | [] => []
  | c :: '_' :: d :: cs =>
    if !digit c then [] else if digit d then c :: '_' :: digitRun digit (d :: cs) else [c]
  | c :: cs => if digit c then c :: digitRun digit cs else []

def withoutUnderscores (cs : Text) : Text := cs.filter (· != '_')

def radix? (mark : Char) : Option (Nat × (Char → Bool)) :=
  match mark with
  | 'x' => some (16, fun c => (Json.hexValue? c).isSome)
  | 'o' => some (8, fun c => '0' ≤ c && c ≤ '7')
  | 'b' => some (2, fun c => c == '0' || c == '1')
  | _ => none

def prefixed? (cs : Text) : Option (Json × Text) :=
  match cs with
  | '0' :: mark :: r => do
    let (base, digit) ← radix? mark
    let run := digitRun digit r
    if run = [] then none
    else
      let n := (withoutUnderscores run).foldl (fun n c => n * base + (Json.hexValue? c).getD 0) 0
      some (.int n, r.drop run.length)
  | _ => none

def fraction (cs : Text) : Text :=
  match cs with
  | '.' :: r => digitRun Char.isDigit r
  | _ => []

/-- The sign and the digits of an exponent, and how long it is. -/
def exponent (cs : Text) : Int × Text × Nat :=
  match cs with
  | c :: r =>
    if c = 'e' ∨ c = 'E' then
      let (sign, skip) : Int × Nat := match r with
        | '-' :: _ => (-1, 1)
        | '+' :: _ => (1, 1)
        | _ => (1, 0)
      let run := digitRun Char.isDigit (r.drop skip)
      if run = [] then (1, [], 0) else (sign, withoutUnderscores run, 1 + skip + run.length)
    else (1, [], 0)
  | [] => (1, [], 0)

def plain? (cs : Text) : Option (Json × Text) :=
  let (negative, unsigned) := match cs with
    | '-' :: r => (true, r)
    | '+' :: r => (false, r)
    | _ => (false, cs)
  let whole := if unsigned.head? = some '0' then ['0'] else digitRun Char.isDigit unsigned
  if whole = [] then none
  else
    let r := unsigned.drop whole.length
    let part := fraction r
    let r := if part = [] then r else r.drop (part.length + 1)
    let (sign, digits, length) := exponent r
    let whole := withoutUnderscores whole
    let part := withoutUnderscores part
    if part = [] ∧ length = 0 then
      let n : Int := Json.digitsValue whole
      some (.int (if negative then -n else n), r)
    else
      some (.decimal ⟨negative, Json.digitsValue (whole ++ part),
        sign * (Json.digitsValue digits : Int) - (part.length : Int)⟩, r.drop length)

/-- Beyond every finite number. -/
def infinite (negative : Bool) : Json := .decimal ⟨negative, 1, 400⟩

def special? (cs : Text) : Option (Json × Text) :=
  let (negative, unsigned) := match cs with
    | '-' :: r => (true, r)
    | '+' :: r => (false, r)
    | _ => (false, cs)
  match unsigned with
  | 'i' :: 'n' :: 'f' :: r => some (infinite negative, r)
  | 'n' :: 'a' :: 'n' :: r => some (infinite negative, r)
  | _ => none

/-- `n` digits of a number within bounds. -/
def bounded? (n low high : Nat) (cs : Text) : Option (Nat × Text) :=
  let ds := cs.take n
  if ds.length = n ∧ ds.all Char.isDigit then
    let v := Json.digitsValue ds
    if low ≤ v ∧ v ≤ high then some (v, cs.drop n) else none
  else none

def exactly? (c : Char) (cs : Text) : Option Text :=
  match cs with
  | d :: r => if c = d then some r else none
  | [] => none

/-- What follows a time of day. -/
def afterTime? (cs : Text) : Option Text := do
  let (_, cs) ← bounded? 2 0 23 cs
  let (_, cs) ← bounded? 2 0 59 (← exactly? ':' cs)
  let (_, cs) ← bounded? 2 0 59 (← exactly? ':' cs)
  match cs with
  | '.' :: r => if (r.takeWhile Char.isDigit) = [] then some cs else some (r.dropWhile Char.isDigit)
  | _ => some cs

def afterOffset (cs : Text) : Text :=
  match cs with
  | c :: r =>
    if c = 'Z' ∨ c = 'z' then r
    else if c = '+' ∨ c = '-' then
      ((do
        let (_, r) ← bounded? 2 0 23 r
        let (_, r) ← bounded? 2 0 59 (← exactly? ':' r)
        some r) : Option Text).getD cs
    else cs
  | [] => []

def isLeapYear (y : Nat) : Bool := y % 4 == 0 && (y % 100 != 0 || y % 400 == 0)

def daysIn (year month : Nat) : Nat :=
  if month = 2 then if isLeapYear year then 29 else 28
  else if month = 4 ∨ month = 6 ∨ month = 9 ∨ month = 11 then 30 else 31

/-- A date, perhaps with a time: whether it is one of the calendar, and the rest. -/
def date? (cs : Text) : Option (Bool × Text) := do
  let (year, cs) ← bounded? 4 0 9999 cs
  let (month, cs) ← bounded? 2 1 12 (← exactly? '-' cs)
  let (day, cs) ← bounded? 2 1 31 (← exactly? '-' cs)
  let rest := match cs with
    | c :: r =>
      if c = 'T' ∨ c = 't' ∨ c = ' ' then ((afterTime? r).map afterOffset).getD cs else cs
    | [] => []
  some (1 ≤ year && day ≤ daysIn year month, rest)

/-- A value that is neither text nor collection. No setting takes a date, so it reads as nothing. -/
def atom? (cs : Text) : Option (Json × Text) :=
  match cs with
  | 't' :: 'r' :: 'u' :: 'e' :: r => some (.bool true, r)
  | 'f' :: 'a' :: 'l' :: 's' :: 'e' :: r => some (.bool false, r)
  | _ =>
    match date? cs with
    | some (true, r) => some (.null, r)
    | some (false, _) => none
    | none =>
      ((afterTime? cs).map fun r => (Json.null, r)) <|> prefixed? cs <|> plain? cs <|> special? cs

end TagLint.Toml
