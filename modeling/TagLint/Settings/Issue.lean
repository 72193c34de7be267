import TagLint.Json.Basic
import TagLint.Text.Quoted

/-! What is reported about values that a setting does not take. -/
namespace TagLint
open Text

inductive IssueKind where
  | missing
  | extra
  | notText
  | notBool
  | unreadableBool
  | notInt
  | unreadableInt
  | fractionalInt
  | infiniteInt
  | hugeInt
  | tooSmall (least : Int)
  | notOneOf (words : List Text)
  | notList
  | notSection (name : Text)
  | notDict
deriving DecidableEq, Repr

def IssueKind.type : IssueKind → Text
  | missing => "missing"
  | extra => "extra_forbidden"
  | notText => "string_type"
  | notBool => "bool_type"
  | unreadableBool => "bool_parsing"
  | notInt => "int_type"
  | unreadableInt => "int_parsing"
  | fractionalInt => "int_from_float"
  | infiniteInt => "finite_number"
  | hugeInt => "int_parsing_size"
  | tooSmall _ => "greater_than_equal"
  | notOneOf _ => "literal_error"
  | notList => "list_type"
  | notSection _ => "model_type"
  | notDict => "dict_type"

/-- Some words, the last of them after an `or`. -/
def anyOf (words : List Text) : Text :=
  match words.reverse with
  | last :: w :: ws => join ", " (w :: ws).reverse ++ " or " ++ last
  | _ => words.flatten

def IssueKind.message : IssueKind → Text
  | missing => "Field required"
  | extra => "Extra inputs are not permitted"
  | notText => "Input should be a valid string"
  | notBool => "Input should be a valid boolean"
  | unreadableBool => "Input should be a valid boolean, unable to interpret input"
  | notInt => "Input should be a valid integer"
  | unreadableInt => "Input should be a valid integer, unable to parse string as an integer"
  | fractionalInt => "Input should be a valid integer, got a number with a fractional part"
  | infiniteInt => "Input should be a finite number"
  | hugeInt => "Unable to parse input string as an integer, exceeded maximum size"
  | tooSmall least => "Input should be greater than or equal to " ++ ofInt least
  | notOneOf words => "Input should be " ++ anyOf (words.map quoted)
  | notList => "Input should be a valid list"
  | notSection name => "Input should be a valid dictionary or instance of " ++ name
  | notDict => "Input should be a valid dictionary"

/-- A step to a value: a key or an index. -/
inductive Step where
  | key (name : Text)
  | index (n : Nat)
deriving DecidableEq, Repr

structure Issue where
  place : List Step := []
  kind : IssueKind
deriving DecidableEq, Repr

abbrev Checked (α : Type) := Except (List Issue) α

namespace Checked

def fail (kind : IssueKind) : Checked α := .error [⟨[], kind⟩]

def issues : Checked α → List Issue
  | .ok _ => []
  | .error is => is

/-- Issues of a value behind a step. -/
def under (step : Step) : Checked α → Checked α
  | .ok a => .ok a
  | .error is => .error (is.map fun i => { i with place := step :: i.place })

/-- Both values, or the issues of both. -/
def both (a : Checked α) (b : Checked β) : Checked (α × β) :=
  match a, b with
  | .ok a, .ok b => .ok (a, b)
  | a, b => .error (a.issues ++ b.issues)

def all : List (Checked α) → Checked (List α)
  | [] => .ok []
  | c :: cs => (both c (all cs)).map fun (a, as) => a :: as

end Checked

end TagLint
