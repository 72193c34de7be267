import TagLint.Text.Quoted

/-! Paths as they are written: dots and repeated slashes go, double dots stay. -/
namespace TagLint

structure Path where
  /-- The slashes that an absolute path starts with. -/
  root : Text := []
  parts : List Text
deriving DecidableEq, Repr, Inhabited

namespace Path
open Text

/-- The components of a text between slashes. -/
def components (t : Text) : List Text := (split '/' t).filter fun p => p ≠ [] ∧ p ≠ ['.']

/-- Two slashes at the start differ from one; three or more do not. -/
def ofText (t : Text) : Path :=
  let slashes := (t.takeWhile (· == '/')).length
  ⟨if slashes = 0 then [] else if slashes = 2 then "//" else "/", components t⟩

def isAbsolute (p : Path) : Bool := p.root != []

def toText (p : Path) : Text :=
  if p.root = [] ∧ p.parts = [] then ['.'] else p.root ++ join "/" p.parts

def child (p : Path) (name : Text) : Path := ⟨p.root, p.parts ++ [name]⟩

/-- The path `q` seen from `p`. -/
def append (p q : Path) : Path := if q.isAbsolute then q else ⟨p.root, p.parts ++ q.parts⟩

def name (p : Path) : Text := p.parts.getLast?.getD []

def ofParts (parts : List Text) : Path := ⟨['/'], parts⟩

/-- Characters that stand for themselves in a file address. -/
def isPlain (c : Char) : Bool := c.isAlphanum || "_.-~/".toList.contains c

def percent (b : UInt8) : Text := '%' :: (hex 2 b.toNat).map Char.toUpper

/-- The address of a file; other characters are written byte by byte. -/
def address (p : Path) : Text :=
  "file://" ++ p.toText.flatMap fun c =>
    if isPlain c then [c] else (String.singleton c).toUTF8.toList.flatMap percent

end Path
end TagLint
