import TagLint.Render.Basic

/-! The notes of an outcome, with its span tree. -/
namespace TagLint.Render
open Text

def spaces (n : Nat) : Text := List.replicate n ' '

/-- The sign of a number and its absolute value. -/
def asDecimal : Json → Rendered Decimal
  | .int n => .ok ⟨n < 0, n.natAbs, 0⟩
  | .bool b => .ok ⟨false, if b then 1 else 0, 0⟩
  | .decimal d => .ok d
  | _ => .error .shape

/-- Milliseconds with two places, eight characters wide. -/
def durationText (d : Decimal) : Text :=
  let t := d.fixed 2
  spaces (8 - t.length) ++ t

def exceeds (d : Decimal) (limit : Nat) : Bool :=
  let (n, m) := d.ratio
  !d.negative && limit * m < n

def durationStyle (d : Decimal) : Text :=
  if exceeds d 1000 then "bold red" else if exceeds d 100 then "yellow" else "dim"

/-- Counts, with annotations laid over them. -/
def details (span : Json) : Rendered (List (Text × Json)) := do
  let part (key : String) : Rendered (List (Text × Json)) := do
    let v := (← optional key span).getD .null
    if v.isTruthy then asPairs v else return []
  return (← part "annotations").foldl (fun kept (k, v) => Json.put k v kept) (← part "counts")

def spanLine (pr : Printer) (indent : Nat) (span : Json) : Rendered (List Text) := do
  let duration ← asDecimal ((← optional "duration_ms" span).getD (.int 0))
  let style := durationStyle duration
  let name := ((← optional "name" span).getD (.text ['?'])).display
  let found := (← details span).map fun (k, v) => k ++ ['='] ++ v.display
  let notes : Text := if found = [] then [] else "  (" ++ join ", " found ++ ")"
  pr.lines [.marked (spaces indent ++ "[" ++ style ++ "]" ++ durationText duration ++ "ms[/"
    ++ style ++ "]  " ++ name ++ notes)]

mutual

/-- The lines of a span and of those below it, each level deeper by four. -/
def spanLines (pr : Printer) (indent : Nat) : Json → Rendered (List Text)
  | .dict pairs => do
    let own ← spanLine pr indent (.dict pairs)
    return own ++ (← childLines pr (indent + 4) pairs)
  | _ => .error .shape

/-- The lines of the spans under the first key for them. -/
def childLines (pr : Printer) (indent : Nat) : List (Text × Json) → Rendered (List Text)
  | [] => .ok []
  | (key, v) :: rest =>
    if key = "children" then
      match v with
      | .list spans => treeLines pr indent spans
      | v => do if (← asItems v).isEmpty then return [] else .error .shape
    else childLines pr indent rest

def treeLines (pr : Printer) (indent : Nat) : List Json → Rendered (List Text)
  | [] => .ok []
  | span :: rest => do
    let own ← spanLines pr indent span
    return own ++ (← treeLines pr indent rest)

end

def infoLine (pr : Printer) (key : Text) (value : Json) : Rendered (List Text) :=
  if key = "telemetry" then spanLines pr 4 value
  else pr.lines [.marked ("    " ++ key ++ ": " ++ value.display)]

/-- The block of notes; nothing when there are none. -/
def infoLines (pr : Printer) (o : Outcome) : Rendered (List Text) :=
  match o.info.getD [] with
  | [] => .ok []
  | notes => do
    let title ← pr.lines [.literal "  meta:"]
    return (← pr.lines []) ++ title ++ (← notes.mapM fun (k, v) => infoLine pr k v).flatten

end TagLint.Render
