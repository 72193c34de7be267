import TagLint.Text.Basic

/-! Name patterns: a star for any text, a question mark for one character, brackets for a class. -/
namespace TagLint
open Text

inductive GlobItem where
  | star
  | one
  | char (c : Char)
  | oneOf (negated : Bool) (chars : List Char) (ranges : List (Char × Char))
deriving DecidableEq, Repr

namespace Glob

/-- Where the bracket that stands just before this text is closed. A closing bracket that comes
first is a member of the class. -/
def classLength? (cs : Text) : Option Nat :=
  let skip := match cs with
    | '!' :: ']' :: _ => 2
    | '!' :: _ => 1
    | ']' :: _ => 1
    | _ => 0
  ((cs.drop skip).findIdx? (· == ']')).map (· + skip)

/-- Cuts a class at the hyphens that make ranges: one stands at `skip` or later, and the next one
not before the third character after it. -/
def chunks (fuel skip : Nat) (cs : Text) : List Text :=
  match fuel with
  | 0 => [cs]
  | fuel + 1 =>
    match (cs.drop skip).findIdx? (· == '-') with
    | none => [cs]
    | some k => cs.take (k + skip) :: chunks fuel 2 (cs.drop (k + skip + 1))

/-- A hyphen at the end is a member. -/
def closeChunks (parts : List Text) : List Text :=
  match parts.reverse with
  | [] :: last :: before => ((last ++ ['-']) :: before).reverse
  | _ => parts

/-- Ranges that run backwards lose both ends. -/
def mergeEmpty : List Text → List Text
  | [] => []
  | part :: parts =>
    match mergeEmpty parts with
    | [] => [part]
    | next :: rest =>
      match part.getLast?, next.head? with
      | some a, some b =>
        if b < a then (part.dropLast ++ next.drop 1) :: rest else part :: next :: rest
      | _, _ => part :: next :: rest

def rangesBetween : List Text → List (Char × Char)
  | part :: next :: rest =>
    match part.getLast?, next.head? with
    | some a, some b => (a, b) :: rangesBetween (next :: rest)
    | _, _ => rangesBetween (next :: rest)
  | _ => []

def classItem (cs : Text) : GlobItem :=
  let parts :=
    if '-' ∈ cs then
      mergeEmpty (closeChunks (chunks cs.length (if cs.head? = some '!' then 2 else 1) cs))
    else [cs]
  match parts with
  | ('!' :: first) :: rest =>
    if first = [] ∧ rest = [] then .one
    else .oneOf true (first ++ rest.flatten) (rangesBetween (first :: rest))
  | _ => .oneOf false parts.flatten (rangesBetween parts)

/-- An open bracket that is never closed is a character. -/
def parse (cs : Text) : List GlobItem :=
  match cs with
  | [] => []
  | '*' :: r => .star :: parse r
  | '?' :: r => .one :: parse r
  | '[' :: r =>
    match classLength? r with
    | some n => classItem (r.take n) :: parse (r.drop (n + 1))
    | none => .char '[' :: parse r
  | c :: r => .char c :: parse r
termination_by cs.length
decreasing_by all_goals simp only [List.length_cons, List.length_drop]; omega

def GlobItem.admits : GlobItem → Char → Bool
  | .star, _ => true
  | .one, _ => true
  | .char d, c => c == d
  | .oneOf negated chars ranges, c =>
    (chars.contains c || ranges.any fun (a, b) => a ≤ c && c ≤ b) != negated

def matchItems : List GlobItem → Text → Bool
  | [], cs => cs.isEmpty
  | .star :: items, cs => starMatch items cs
  | item :: items, c :: cs => GlobItem.admits item c && matchItems items cs
  | _ :: _, [] => false
where
  /-- The items match the text or some end of it. -/
  starMatch (items : List GlobItem) : Text → Bool
    | [] => matchItems items []
    | c :: cs => matchItems items (c :: cs) || starMatch items cs

/-- Whether a pattern matches a whole name. -/
def isMatch (pattern name : Text) : Bool := matchItems (parse pattern) name

end Glob
end TagLint
