import TagLint.Text.Quoted

/-! Message templates with fields in braces. -/
namespace TagLint
open Text

/-- Why a rule gives no findings at all. -/
inductive RuleFailure where
  /-- The rule itself gave up. -/
  | raised (message : Text)
  /-- A template names a field that it is not given. -/
  | unknownField (name : Text)
  /-- A template asks for a field by number. -/
  | positionalField (index : Nat)
  | malformedTemplate (message : Text)
deriving DecidableEq, Repr

def RuleFailure.message : RuleFailure → Text
  | raised m => m
  | unknownField name => quoted name
  | positionalField i =>
    "Replacement index " ++ ofNat i ++ " out of range for positional args tuple"
  | malformedTemplate m => m

namespace Template

/-- The value of a field with this text between its braces. -/
def field (value inner : Text) : Except RuleFailure Text :=
  let name := inner.takeWhile fun c => c != '!' && c != ':' && c != '.' && c != '['
  let rest := inner.drop name.length
  if name = [] then .error (.positionalField 0)
  else if name.all Char.isDigit then
    .error (.positionalField (name.foldl (fun n c => n * 10 + (c.toNat - 48)) 0))
  else if name ≠ "value" then .error (.unknownField name)
  else if rest = "!r" then .ok (quoted value)
  else .ok value

/-- Braces that stand doubled are text. -/
def fill (value : Text) (template : Text) : Except RuleFailure Text :=
  match template with
  | [] => .ok []
  | '{' :: '{' :: cs => return '{' :: (← fill value cs)
  | '}' :: '}' :: cs => return '}' :: (← fill value cs)
  | '}' :: _ => .error (.malformedTemplate "Single '\x7d' encountered in format string")
  | ['{'] => .error (.malformedTemplate "Single '\x7b' encountered in format string")
  | '{' :: cs =>
    match cs.findIdx? (· == '}') with
    | none => .error (.malformedTemplate "expected '\x7d' before end of string")
    | some n => return (← field value (cs.take n)) ++ (← fill value (cs.drop (n + 1)))
  | c :: cs => return c :: (← fill value cs)
termination_by template.length
decreasing_by all_goals simp only [List.length_cons, List.length_drop]; omega

end Template
end TagLint
