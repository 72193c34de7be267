import TagLint.Text.Basic
import TagLint.Text.Case

/-! Style tags in brackets: an opening tag, a closing tag, escapes by backslash. -/
namespace TagLint.Console
open Text

/-- A closing tag closes nothing. -/
structure MarkupError where
  tag : Text
deriving DecidableEq, Repr

inductive MarkupPiece where
  | text (t : Text)
  | tag (t : Text)
deriving DecidableEq, Repr

namespace Markup

def startsTag (c : Char) : Bool :=
  ('a' ≤ c && c ≤ 'z') || c == '#' || c == '/' || c == '@'

/-- A tag at the start of a text: the backslashes before it, what stands in the brackets, the
rest. -/
def tagHere? (cs : Text) : Option (Nat × Text × Text) :=
  let escapes := (cs.takeWhile (· == '\\')).length
  match cs.drop escapes with
  | '[' :: c :: rest =>
    let body := rest.takeWhile fun d => d != '[' && d != ']'
    match rest.drop body.length with
    | ']' :: more => if startsTag c && c != ']' then some (escapes, c :: body, more) else none
    | _ => none
  | _ => none

theorem tagHere?_length {cs t more : Text} {n : Nat} (h : tagHere? cs = some (n, t, more)) :
    more.length < cs.length := by
  simp only [tagHere?] at h
  split at h
  · rename_i c rest hd
    split at h
    · rename_i m hm
      split at h
      · simp only [Option.some.injEq, Prod.mk.injEq] at h
        obtain ⟨_, _, rfl⟩ := h
        have h1 := congrArg List.length hd
        have h2 := congrArg List.length hm
        simp only [List.length_drop, List.length_cons] at h1 h2
        omega
      · simp at h
    · simp at h
  · simp at h

/-- Every other backslash before a tag is text; an odd one makes the tag text too. -/
def pieces (cs : Text) : List MarkupPiece :=
  match cs with
  | [] => []
  | c :: rest =>
    match _h : tagHere? (c :: rest) with
    | some (escapes, tag, more) =>
      .text (List.replicate (escapes / 2) '\\')
        :: (if escapes % 2 = 1 then .text (['['] ++ tag ++ [']']) else .tag tag) :: pieces more
    | none =>
      if c = '\\' ∧ rest.head? = some '[' then .text ['['] :: pieces rest.tail
      else .text [c] :: pieces rest
termination_by cs.length
decreasing_by
  · exact tagHere?_length _h
  · simp only [List.length_tail, List.length_cons]
    omega
  · simp

def styleNames : List (Text × Text) := [
  ("b", "bold"), ("d", "dim"), ("i", "italic"), ("u", "underline"), ("r", "reverse"),
  ("c", "conceal"), ("s", "strike"), ("uu", "underline2"), ("o", "overline")]

/-- The name by which a closing tag finds its opening tag. The words of a name count in the order in
which they stand. -/
def styleName (t : Text) : Text :=
  let name := lower (trim t)
  ((styleNames.find? (·.1 = name)).map (·.2)).getD name

/-- Closes the innermost open tag of a name, or of any name when none is given. -/
def close (name : Text) (stack : List Text) : Option (List Text) :=
  if name = [] then (if stack = [] then none else some stack.tail)
  else if stack.contains (styleName name) then some (stack.erase (styleName name))
  else none

/-- The text of the pieces, with the open tags, the innermost first. -/
def textOf (stack : List Text) : List MarkupPiece → Except MarkupError Text
  | [] => .ok []
  | .text t :: rest => (textOf stack rest).map (t ++ ·)
  | .tag t :: rest =>
    match before "=" t with
    | '/' :: name =>
      match close (trim name) stack with
      | some stack => textOf stack rest
      | none => .error ⟨t⟩
    | name => textOf (styleName name :: stack) rest

/-- What is left to see of a text with tags. Names of colours and pictures are not looked up. -/
def plain (t : Text) : Except MarkupError Text := textOf [] (pieces t)

end Markup
end TagLint.Console
