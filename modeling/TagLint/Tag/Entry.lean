import TagLint.Vocabulary

/-! The entries of a gorm segment: a key, perhaps with a value. -/
namespace TagLint
open Text

structure TagEntry where
  /-- The documented spelling when the key is known. -/
  key : Text
  value : Text := []
  /-- The key as written. -/
  original : Text := []
deriving DecidableEq, Repr, Inhabited

namespace TagEntry

def lowered (e : TagEntry) : Text := lower e.key

def token (e : TagEntry) : Text := if e.original = [] then e.key else e.original

/-- Splits at the first colon, unless it comes first. -/
def splitPart (part : Text) : Text × Text :=
  match part.findIdx? (· == ':') with
  | some (i + 1) => (trim (part.take (i + 1)), trim (part.drop (i + 2)))
  | _ => (trim part, [])

def ofPart (v : Vocabulary) (part : Text) : TagEntry :=
  let (token, value) := splitPart part
  ⟨v.canonicalName token, value, token⟩

/-- The entries of a segment in order, repetitions kept, blank parts left out. -/
def ofSegment (v : Vocabulary) (segment : Text) : List TagEntry :=
  (((split ';' segment).map trim).filter (· ≠ [])).map (ofPart v)

end TagEntry
end TagLint
