import TagLint.Decimal.Basic

/-! Values of a data document. Objects keep the order of their keys. -/
namespace TagLint

inductive Json where
  | null
  | bool (b : Bool)
  | int (n : Int)
  | decimal (d : Decimal)
  | text (t : Text)
  | list (items : List Json)
  | dict (pairs : List (Text × Json))
deriving Repr, Inhabited

namespace Json

instance : Coe Text Json := ⟨.text⟩

/-- The value of a key; `pairs` of an object hold every key once. -/
def lookup? (key : Text) (pairs : List (Text × Json)) : Option Json :=
  (pairs.find? (·.1 = key)).map (·.2)

/-- A key that is there keeps its place and takes the new value. -/
def put (key : Text) (value : Json) : List (Text × Json) → List (Text × Json)
  | [] => [(key, value)]
  | (k, v) :: rest => if k = key then (k, value) :: rest else (k, v) :: put key value rest

def get? (key : Text) : Json → Option Json
  | .dict pairs => lookup? key pairs
  | _ => none

def nat (n : Nat) : Json := .int n

def ofOption (o : Option Text) : Json :=
  match o with
  | some t => .text t
  | none => .null

def texts (ts : List Text) : Json := .list (ts.map .text)

/-- What counts as a yes: all but nothing, false, zero and the empty. -/
def isTruthy : Json → Bool
  | null => false
  | bool b => b
  | int n => n != 0
  | decimal d => d.digits != 0
  | text t => !t.isEmpty
  | list items => !items.isEmpty
  | dict pairs => !pairs.isEmpty

end Json
end TagLint
