import TagLint.Text.Basic

/-! Braces that count: those outside raw strings, quoted literals and comments. -/
namespace TagLint

def backtick : Char := '\x60'

namespace Brace

/-- Length of what is left of a raw string, with its closing backtick. -/
def rawSpan? (cs : Text) : Option Nat := (cs.findIdx? (· == backtick)).map (· + 1)

/-- Length of what is left of a quoted literal. A backslash takes the next character with it, and
the literal ends at its quote or at a newline. -/
def quotedSpan (quote : Char) : Text → Nat
  | [] => 0
  | ['\\'] => 2
  | '\\' :: _ :: cs => quotedSpan quote cs + 2
  | c :: cs => if c = quote ∨ c = '\n' then 1 else quotedSpan quote cs + 1

/-- Length of what is left of a line comment, with its newline. -/
def lineSpan : Text → Nat
  | [] => 0
  | c :: cs => if c = '\n' then 1 else lineSpan cs + 1

/-- Length of what is left of a block comment, with its closing mark. -/
def blockSpan? (cs : Text) : Option Nat := (Text.find? "*/" cs).map (· + 2)

/-- The index of the brace that closes the group open at `depth`, for a rest that starts at `i`. -/
def closeFrom? (depth i : Nat) (cs : Text) : Option Nat :=
  match cs with
  | [] => none
  | '/' :: '/' :: r =>
    let n := lineSpan r
    closeFrom? depth (i + 2 + n) (r.drop n)
  | '/' :: '*' :: r =>
    match blockSpan? r with
    | none => none
    | some n => closeFrom? depth (i + 2 + n) (r.drop n)
  | c :: r =>
    if c = backtick then
      match rawSpan? r with
      | none => none
      | some n => closeFrom? depth (i + 1 + n) (r.drop n)
    else if c = '"' ∨ c = '\'' then
      let n := quotedSpan c r
      closeFrom? depth (i + 1 + n) (r.drop n)
    else if c = '{' then closeFrom? (depth + 1) (i + 1) r
    else if c = '}' then
      if depth ≤ 1 then some i else closeFrom? (depth - 1) (i + 1) r
    else closeFrom? depth (i + 1) r
termination_by cs.length
decreasing_by all_goals simp only [List.length_cons, List.length_drop]; omega

/-- The index of the brace that closes the group whose opening brace stands just before `start`. -/
def close? (t : Text) (start : Nat) : Option Nat := closeFrom? 1 start (t.drop start)

/-- A line without its raw strings; a lone backtick stays. -/
def withoutRaw (cs : Text) : Text :=
  match cs with
  | [] => []
  | c :: r =>
    if c = backtick then
      match rawSpan? r with
      | some n => withoutRaw (r.drop n)
      | none => c :: r
    else c :: withoutRaw r
termination_by cs.length
decreasing_by all_goals simp only [List.length_cons, List.length_drop]; omega

/-- Opening less closing braces of a line, outside raw strings and before a line comment. -/
def delta (line : Text) : Int :=
  let code := Text.before "//" (withoutRaw line)
  (code.count '{' : Int) - (code.count '}' : Int)

end Brace
end TagLint
