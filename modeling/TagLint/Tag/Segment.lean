import TagLint.Struct.Basic
import TagLint.Struct.Brace

/-! The segment of a tag literal that belongs to the gorm namespace. -/
namespace TagLint.Segment
open Text

def mark : Text := "gorm:"

/-- How a segment is written: in double quotes, in single quotes, or bare. -/
inductive Convention where
  | double
  | single
  | bare
deriving DecidableEq, Repr

def isNameChar (c : Char) : Bool := isWord c || c == '.' || c == '-'

def isBareChar (c : Char) : Bool := !isBlank c && c != ';' && c != backtick

/-- The namespace is a word of its own, not the end of a longer name. -/
def startsName : Option Char → Bool
  | none => true
  | some c => !isNameChar c

/-- The text up to the closing quote. A backslash takes the next character with it; that character
is no newline. -/
def untilQuote? (quote : Char) : Text → Option Text
  | [] => none
  | ['\\'] => none
  | '\\' :: d :: cs => if d = '\n' then none else (untilQuote? quote cs).map (['\\', d] ++ ·)
  | c :: cs => if c = quote then some [] else (untilQuote? quote cs).map (c :: ·)

/-- The segment that follows the mark. -/
def Convention.read? : Convention → Text → Option Text
  | .double, '"' :: cs => untilQuote? '"' cs
  | .single, '\'' :: cs => untilQuote? '\'' cs
  | .bare, cs => if cs.takeWhile isBareChar = [] then none else some (cs.takeWhile isBareChar)
  | _, _ => none

/-- The first segment of one convention in a text that stands after `previous`. -/
def search? (convention : Convention) (previous : Option Char) : Text → Option Text
  | [] => none
  | c :: cs =>
    match if startsName previous then (after? mark (c :: cs)).bind convention.read? else none with
    | some found => some found
    | none => search? convention (some c) cs

/-- The segment of a tag literal, empty when it has none. Quoted forms go before bare ones, wherever
they stand. -/
def decode (literal : Text) : Text :=
  (search? .double none literal <|> search? .single none literal
    <|> search? .bare none literal).getD []

end TagLint.Segment

namespace TagLint

def FieldDecl.tag (f : FieldDecl) : Text := Segment.decode f.rawTag

def FieldDecl.isTagged (f : FieldDecl) : Bool := !Text.allBlank f.tag

def StructDecl.hasTags (s : StructDecl) : Bool := s.fields.any FieldDecl.isTagged

end TagLint
