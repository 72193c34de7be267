import TagLint.Render.Printer
import TagLint.Service.Outcome
import TagLint.Text.Quoted

/-! Reading the data of an outcome, and printing what is read. -/
namespace TagLint
open Text

def RenderError.message : RenderError → Text
  | missingKey name => quoted name
  | markup => "Closing tag does not match any open tag"
  | shape => "Unexpected value"

namespace Render

/-- The value of a key that must be there. -/
def need (key : String) : Json → Rendered Json
  | .dict pairs =>
    match Json.lookup? key.toList pairs with
    | some v => .ok v
    | none => .error (.missingKey key.toList)
  | _ => .error .shape

/-- The value of a key that may be there. -/
def optional (key : String) : Json → Rendered (Option Json)
  | .dict pairs => .ok (Json.lookup? key.toList pairs)
  | _ => .error .shape

/-- The value of a key, or another one. -/
def getOr (key : String) (default : Json) (pairs : List (Text × Json)) : Json :=
  (Json.lookup? key.toList pairs).getD default

def asText : Json → Rendered Text
  | .text t => .ok t
  | _ => .error .shape

/-- What a value holds: items, keys or characters. -/
def asItems : Json → Rendered (List Json)
  | .list items => .ok items
  | .dict pairs => .ok (pairs.map fun (k, _) => .text k)
  | .text t => .ok (t.map fun c => .text [c])
  | _ => .error .shape

def asPairs : Json → Rendered (List (Text × Json))
  | .dict pairs => .ok pairs
  | _ => .error .shape

def asInt : Json → Rendered Int
  | .int n => .ok n
  | .bool b => .ok (if b then 1 else 0)
  | _ => .error .shape

/-- One line for the operation, under its status. -/
def statusLine (pr : Printer) (op : Text) : Rendered (List Text) :=
  pr.lines [.literal "OK", .literal ("  " ++ op)]

def fieldLine (pr : Printer) (key value : Text) : Rendered (List Text) :=
  pr.lines [.literal ("  " ++ key ++ ": " ++ value)]

/-- Start and end of a range, as lines and columns. -/
def rangeText (range : Json) : Rendered Text := do
  let start ← need "start" range
  let stop ← need "end" range
  return (← need "line" start).display ++ ":" ++ (← need "character" start).display ++ "-"
    ++ (← need "line" stop).display ++ ":" ++ (← need "character" stop).display

/-- The findings of an outcome; none when nothing stands there. -/
def diagnosticsOf (o : Outcome) : Rendered (List Json) :=
  let v := getOr "diagnostics" .null o.data
  if v.isTruthy then asItems v else .ok []

end Render
end TagLint
