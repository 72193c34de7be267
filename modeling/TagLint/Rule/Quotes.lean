import TagLint.Text.Basic

/-! Balance of the quotes in free text. -/
namespace TagLint

structure QuoteBalance where
  single : Nat
  double : Nat
deriving DecidableEq, Repr, Inhabited

inductive QuoteKind where
  | single
  | double
deriving DecidableEq, Repr

def QuoteKind.name : QuoteKind → Text
  | single => "single"
  | double => "double"

namespace QuoteBalance

def isBalanced (b : QuoteBalance) : Bool := b.single % 2 == 0 && b.double % 2 == 0

/-- The kind that does not come out even, single quotes first. -/
def unbalancedKind? (b : QuoteBalance) : Option QuoteKind :=
  if b.single % 2 ≠ 0 then some .single
  else if b.double % 2 ≠ 0 then some .double
  else none

def unbalancedCount (b : QuoteBalance) : Nat :=
  if b.unbalancedKind? = some .single then b.single else b.double

/-- Counts the quotes that open or close a span. Inside a span the other kind is plain text, and so
is a quote right after a backslash. -/
def scan (inside : Option QuoteKind) (escaped : Bool) (b : QuoteBalance) : Text → QuoteBalance
  | [] => b
  | c :: cs =>
    let next := c == '\\'
    if c = '\'' ∧ inside ≠ some .double ∧ !escaped then
      scan (if inside = none then some .single else none) next ⟨b.single + 1, b.double⟩ cs
    else if c = '"' ∧ inside ≠ some .single ∧ !escaped then
      scan (if inside = none then some .double else none) next ⟨b.single, b.double + 1⟩ cs
    else scan inside next b cs

def ofText (value : Text) : QuoteBalance := scan none false ⟨0, 0⟩ value

end QuoteBalance

def hasMixedQuotes (value : Text) : Bool := value.elem '\'' && value.elem '"'

end TagLint
