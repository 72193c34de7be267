import TagLint.Text.Basic

/-! How alike two texts are, and which words are close to a mistyped one. -/
namespace TagLint.Text

/-- The length of the common start. -/
def commonStart : Text → Text → Nat
  | a :: as, b :: bs => if a = b then commonStart as bs + 1 else 0
  | _, _ => 0

/-- A common block of two texts: where it starts in each, and its length. -/
structure Block where
  left : Nat := 0
  right : Nat := 0
  length : Nat := 0
deriving DecidableEq, Repr, Inhabited

def Block.longer (a b : Block) : Block := if a.length < b.length then b else a

def blocksAt (left : Nat) (a b : Text) : List Block :=
  (List.range b.length).map fun right => ⟨left, right, commonStart a (b.drop right)⟩

/-- The longest common block; of several the first on the left, then on the right. -/
def longestBlock (a b : Text) : Block :=
  ((List.range a.length).flatMap fun left => blocksAt left (a.drop left) b).foldl Block.longer {}

/-- How many characters match: those of the longest block, and those on either side of it. -/
def matching : Nat → Text → Text → Nat
  | 0, _, _ => 0
  | fuel + 1, a, b =>
    let k := longestBlock a b
    if k.length = 0 then 0
    else k.length + matching fuel (a.take k.left) (b.take k.right)
      + matching fuel (a.drop (k.left + k.length)) (b.drop (k.right + k.length))

/-- Whether at least six tenths of both texts match. -/
def isClose (word candidate : Text) : Bool :=
  3 * (word.length + candidate.length) ≤ 10 * matching candidate.length candidate word

/-- Whether the first candidate is the better one for a word. -/
def isBetter (word a b : Text) : Bool :=
  let score (c : Text) := matching c.length c word
  let left := score a * (word.length + b.length)
  let right := score b * (word.length + a.length)
  right < left || (left == right && decide (b < a))

/-- The best three of the close candidates. -/
def closeTo (word : Text) (candidates : List Text) : List Text :=
  ((candidates.filter (isClose word)).mergeSort fun a b => !isBetter word b a).take 3

end TagLint.Text
