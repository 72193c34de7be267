import TagLint.Json.Basic

/-! Reading a data document. -/
namespace TagLint.Json
open Text

def isSpace (c : Char) : Bool := c == ' ' || c == '\t' || c == '\n' || c == '\r'

def skipSpace (cs : Text) : Text := cs.dropWhile isSpace

def hexValue? (c : Char) : Option Nat :=
  if c.isDigit then some (c.toNat - 48)
  else if 'a' ≤ c ∧ c ≤ 'f' then some (c.toNat - 87)
  else if 'A' ≤ c ∧ c ≤ 'F' then some (c.toNat - 55)
  else none

def hexNumber? (cs : Text) : Option Nat :=
  cs.foldlM (fun n c => (hexValue? c).map (n * 16 + ·)) 0

def digitsValue (cs : Text) : Nat := cs.foldl (fun n c => n * 10 + (c.toNat - 48)) 0

def unit? (cs : Text) : Option (Nat × Text) :=
  if cs.length < 4 then none else (hexNumber? (cs.take 4)).map fun n => (n, cs.drop 4)

/-- The characters of a unit escape; a high surrogate takes a low one with it. -/
def escapedChar? (cs : Text) : Option (Char × Text) := do
  let (high, rest) ← unit? cs
  if 0xD800 ≤ high ∧ high < 0xDC00 then
    match rest with
    | '\\' :: 'u' :: more =>
      let (low, rest) ← unit? more
      if 0xDC00 ≤ low ∧ low < 0xE000 then
        some (Char.ofNat (0x10000 + (high - 0xD800) * 0x400 + (low - 0xDC00)), rest)
      else none
    | _ => none
  else some (Char.ofNat high, rest)

def simpleEscape? (c : Char) : Option Char :=
  match c with
  | '"' => some '"'
  | '\\' => some '\\'
  | '/' => some '/'
  | 'b' => some '\x08'
  | 'f' => some '\x0c'
  | 'n' => some '\n'
  | 'r' => some '\r'
  | 't' => some '\t'
  | _ => none

/-- The rest of a string after its opening quote. -/
def string? : Nat → Text → Option (Text × Text)
  | 0, _ => none
  | fuel + 1, cs =>
    match cs with
    | [] => none
    | '"' :: rest => some ([], rest)
    | '\\' :: 'u' :: rest => do
      let (c, rest) ← escapedChar? rest
      let (t, rest) ← string? fuel rest
      some (c :: t, rest)
    | '\\' :: e :: rest => do
      let c ← simpleEscape? e
      let (t, rest) ← string? fuel rest
      some (c :: t, rest)
    | c :: rest =>
      if c.toNat < 32 ∨ c = '\\' then none
      else (string? fuel rest).map fun (t, r) => (c :: t, r)

/-- The whole part of a number has no leading zero. -/
def number? (cs : Text) : Option (Json × Text) :=
  let negative := cs.head? == some '-'
  let cs := if negative then cs.drop 1 else cs
  let whole := if cs.head? = some '0' then ['0'] else cs.takeWhile Char.isDigit
  if whole = [] then none
  else
    let rest := cs.drop whole.length
    let fraction := match rest with
      | '.' :: r => r.takeWhile Char.isDigit
      | _ => []
    let rest := if fraction = [] then rest else rest.drop (fraction.length + 1)
    let (sign, expDigits, rest') := match rest with
      | c :: r =>
        if c = 'e' ∨ c = 'E' then
          let (sign, r) : Int × Text := match r with
            | '-' :: r => (-1, r)
            | '+' :: r => (1, r)
            | r => (1, r)
          (sign, r.takeWhile Char.isDigit, r.dropWhile Char.isDigit)
        else ((1 : Int), [], rest)
      | [] => ((1 : Int), [], rest)
    let rest := if expDigits = [] then rest else rest'
    if fraction = [] ∧ expDigits = [] then
      let n : Int := digitsValue whole
      some (.int (if negative then -n else n), rest)
    else
      some (.decimal ⟨negative, digitsValue (whole ++ fraction),
        sign * (digitsValue expDigits : Int) - (fraction.length : Int)⟩, rest)

mutual

def value? : Nat → Text → Option (Json × Text)
  | 0, _ => none
  | fuel + 1, cs =>
    match skipSpace cs with
    | '"' :: rest => (string? (rest.length + 1) rest).map fun (t, r) => (.text t, r)
    | '[' :: rest =>
      match skipSpace rest with
      | ']' :: r => some (.list [], r)
      | rest => (items? fuel rest).map fun (vs, r) => (.list vs, r)
    | '{' :: rest =>
      match skipSpace rest with
      | '}' :: r => some (.dict [], r)
      | rest => (pairs? fuel [] rest).map fun (kvs, r) => (.dict kvs, r)
    | 't' :: 'r' :: 'u' :: 'e' :: r => some (.bool true, r)
    | 'f' :: 'a' :: 'l' :: 's' :: 'e' :: r => some (.bool false, r)
    | 'n' :: 'u' :: 'l' :: 'l' :: r => some (.null, r)
    | rest => number? rest

def items? : Nat → Text → Option (List Json × Text)
  | 0, _ => none
  | fuel + 1, cs => do
    let (v, rest) ← value? fuel cs
    match skipSpace rest with
    | ',' :: rest =>
      let (vs, rest) ← items? fuel rest
      some (v :: vs, rest)
    | ']' :: rest => some ([v], rest)
    | _ => none

/-- A key that comes again keeps its place and takes the later value. -/
def pairs? : Nat → List (Text × Json) → Text → Option (List (Text × Json) × Text)
  | 0, _, _ => none
  | fuel + 1, seen, cs =>
    match skipSpace cs with
    | '"' :: rest => do
      let (k, rest) ← string? (rest.length + 1) rest
      match skipSpace rest with
      | ':' :: rest =>
        let (v, rest) ← value? fuel rest
        match skipSpace rest with
        | ',' :: rest => pairs? fuel (put k v seen) rest
        | '}' :: rest => some (put k v seen, rest)
        | _ => none
      | _ => none
    | _ => none

end

/-- The value of a whole document. -/
def parse? (t : Text) : Option Json := do
  let (v, rest) ← value? (2 * t.length + 2) t
  if skipSpace rest = [] then some v else none

end TagLint.Json
