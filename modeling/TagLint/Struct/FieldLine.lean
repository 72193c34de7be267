import TagLint.Struct.Basic
import TagLint.Struct.Brace

/-! One line of a struct body: names with a type, or an embedded type, and a tag in backticks. -/
namespace TagLint.FieldLine
open Text

def isTypeChar (c : Char) : Bool := isWord c || "[]*.{}".toList.contains c

def isPathChar (c : Char) : Bool := isWord c || c == '.'

/-- A list of words separated by commas, and the rest. A comma that no word follows is rest. -/
def names? (cs : Text) : Option (List Text × Text) :=
  let word := cs.takeWhile isWord
  let rest := cs.dropWhile isWord
  if word = [] then none
  else match _h : trimLeft rest with
    | ',' :: more =>
      match names? (trimLeft more) with
      | some (words, r) => some (word :: words, r)
      | none => some ([word], rest)
    | _ => some ([word], rest)
termination_by cs.length
decreasing_by
  have h₁ := trimLeft_length_le more
  have h₂ := trimLeft_length_le rest
  have h₃ : rest.length ≤ cs.length := (List.dropWhile_sublist isWord).length_le
  rw [_h, List.length_cons] at h₂
  omega

/-- The raw tag at the start of a rest, blanks before it skipped. -/
def tag? (rest : Text) : Option Text :=
  match trimLeft rest with
  | c :: cs =>
    if c = backtick then (cs.findIdx? (· == backtick)).map fun n => cs.take n else none
  | [] => none

/-- A declaration ends in a tag or in blanks. -/
def ending? (rest : Text) : Option Text :=
  tag? rest <|> if allBlank rest then some [] else none

/-- Names, their type and the rest. -/
def declaration? (cs : Text) : Option (List Text × Text × Text) := do
  let (names, rest) ← names? cs
  let tail ← afterBlanks? rest
  let declared := tail.takeWhile isTypeChar
  if declared = [] then none else some (names, declared, tail.dropWhile isTypeChar)

/-- An embedded type, possibly a pointer, and the rest. -/
def embedded? (cs : Text) : Option (Text × Text) :=
  let (star, path) := match cs with
    | '*' :: r => (['*'], r)
    | _ => ([], cs)
  let name := path.takeWhile isPathChar
  if name = [] then none else some (star ++ name, path.dropWhile isPathChar)

def named? (cs : Text) : Option (List FieldDecl) := do
  let (names, declared, rest) ← declaration? cs
  let tag ← ending? rest
  some (names.map fun n => ⟨n, declared, tag⟩)

def unnamed? (cs : Text) : Option (List FieldDecl) := do
  let (name, rest) ← embedded? cs
  let tag ← ending? rest
  some [⟨name, name, tag⟩]

/-- A line comment is cut off only where the line holds no backtick. -/
def declarationPart (line : Text) : Text :=
  if backtick ∈ line then line else trimRight (before "//" line)

/-- The fields that a line declares; a line of another form declares none. -/
def fields (line : Text) : List FieldDecl :=
  let line := declarationPart line
  ((named? line) <|> (unnamed? line)).getD []

end TagLint.FieldLine
