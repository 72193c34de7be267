import TagLint.Json.Basic

/-! Documents as text: on one line, over several lines, and as messages show values. -/
namespace TagLint.Json
open Text

def escapeUnit (n : Nat) : Text := "\\u" ++ hex 4 n

/-- Two units beyond the first plane. -/
def escapeUnits (c : Char) : Text :=
  if c.toNat < 0x10000 then escapeUnit c.toNat
  else
    let n := c.toNat - 0x10000
    escapeUnit (0xD800 + n / 0x400) ++ escapeUnit (0xDC00 + n % 0x400)

def escape (ascii : Bool) (c : Char) : Text :=
  if c = '"' ∨ c = '\\' then ['\\', c]
  else if c = '\n' then "\\n"
  else if c = '\r' then "\\r"
  else if c = '\t' then "\\t"
  else if c.toNat = 8 then "\\b"
  else if c.toNat = 12 then "\\f"
  else if c.toNat < 32 then escapeUnit c.toNat
  else if ascii ∧ 126 < c.toNat then escapeUnits c
  else [c]

def quote (ascii : Bool) (t : Text) : Text := ['"'] ++ t.flatMap (escape ascii) ++ ['"']

mutual

/-- On one line, without blanks. -/
def compact (ascii : Bool) : Json → Text
  | .null => "null"
  | .bool b => if b then "true" else "false"
  | .int n => ofInt n
  | .decimal d => d.write (if ascii then Decimal.plain else Decimal.document)
  | .text t => quote ascii t
  | .list items => "[" ++ join "," (compactItems ascii items) ++ "]"
  | .dict pairs => ['{'] ++ join "," (compactPairs ascii pairs) ++ ['}']

def compactItems (ascii : Bool) : List Json → List Text
  | [] => []
  | v :: vs => compact ascii v :: compactItems ascii vs

def compactPairs (ascii : Bool) : List (Text × Json) → List Text
  | [] => []
  | (k, v) :: rest => (quote ascii k ++ ":" ++ compact ascii v) :: compactPairs ascii rest

end

def newline (indent : Nat) : Text := '\n' :: List.replicate indent ' '

/-- The items of a list or object on lines of their own, two blanks deeper. -/
def block (opening closing : Char) (indent : Nat) (items : List Text) : Text :=
  if items = [] then [opening, closing]
  else [opening] ++ newline (indent + 2) ++ join (',' :: newline (indent + 2)) items
    ++ newline indent ++ [closing]

mutual

/-- Over several lines. -/
def pretty (indent : Nat) : Json → Text
  | .list items => block '[' ']' indent (prettyItems (indent + 2) items)
  | .dict pairs => block '{' '}' indent (prettyPairs (indent + 2) pairs)
  | .null => compact false .null
  | .bool b => compact false (.bool b)
  | .int n => compact false (.int n)
  | .decimal d => compact false (.decimal d)
  | .text t => compact false (.text t)

def prettyItems (indent : Nat) : List Json → List Text
  | [] => []
  | v :: vs => pretty indent v :: prettyItems indent vs

def prettyPairs (indent : Nat) : List (Text × Json) → List Text
  | [] => []
  | (k, v) :: rest => (quote false k ++ ": " ++ pretty indent v) :: prettyPairs indent rest

end

mutual

/-- A value inside another one, as messages show it. -/
def shown : Json → Text
  | .null => "None"
  | .bool b => if b then "True" else "False"
  | .int n => ofInt n
  | .decimal d => d.write Decimal.plain
  | .text t => quoted t
  | .list items => "[" ++ join ", " (shownItems items) ++ "]"
  | .dict pairs => ['{'] ++ join ", " (shownPairs pairs) ++ ['}']

def shownItems : List Json → List Text
  | [] => []
  | v :: vs => shown v :: shownItems vs

def shownPairs : List (Text × Json) → List Text
  | [] => []
  | (k, v) :: rest => (quoted k ++ ": " ++ shown v) :: shownPairs rest

end

/-- A value as a message shows it; a text stands without quotes. -/
def display : Json → Text
  | .text t => t
  | v => shown v

end TagLint.Json
