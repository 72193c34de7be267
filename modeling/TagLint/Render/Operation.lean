import TagLint.Render.Basic

/-! The text of each operation, as lines on the console. -/
namespace TagLint.Render
open Text

/-- Findings gathered under a key, in the order of first sight. -/
def groupBy (key : α → Rendered β) (same : β → β → Bool) (items : List α) :
    Rendered (List (β × List α)) :=
  items.foldlM (fun groups item => do
    let k ← key item
    if groups.any fun g => same g.1 k then
      return groups.map fun g => if same g.1 k then (g.1, g.2 ++ [item]) else g
    else return groups ++ [(k, [item])]) []

def pathOf (d : Json) : Rendered Text := do return ((← optional "path" d).map Json.display).getD []

/-- The line of one finding, and one for its tag when asked for. -/
def findingLines (pr : Printer) (verbose : Bool) (d : Json) : Rendered (List Text) := do
  let severity ← asText (← need "severity" d)
  let field ← asText (← need "field_name" d)
  let key := (← optional "key" d).getD .null
  let mark : Text := if key.isTruthy then " [" ++ key.display ++ "]" else []
  let line := "    " ++ severity ++ " " ++ field ++ mark ++ ": " ++ (← need "message" d).display
  let own ← pr.lines [.literal line]
  let tag := (← optional "tag" d).getD .null
  if verbose && tag.isTruthy then
    return own ++ (← pr.lines [.literal ("      tag: " ++ tag.display)])
  else return own

def structLines (pr : Printer) (verbose : Bool) (group : Json × List Json) :
    Rendered (List Text) := do
  let own ← pr.lines [.literal ("  " ++ group.1.display)]
  return own ++ (← group.2.mapM (findingLines pr verbose)).flatten

def sameValue (a b : Json) : Bool := a.shown == b.shown

def pathLines (pr : Printer) (verbose : Bool) (group : Text × List Json) :
    Rendered (List Text) := do
  let structs ← groupBy (need "struct_name") sameValue group.2
  let own ← if group.1 = [] then pure [] else pr.lines [.literal group.1]
  return own ++ (← structs.mapM (structLines pr verbose)).flatten

/-- What stands for findings when there are none. -/
def noFindings (data : List (Text × Json)) (files : Nat) : Text :=
  "[gl.ok]OK[/gl.ok]  No GORM tag problems found (" ++ (getOr "structs" (.int 0) data).display
    ++ " structs in " ++ ofNat files ++ " files)."

def lintTotals (data : List (Text × Json)) : Text :=
  "\n" ++ (getOr "error_count" (.int 0) data).display ++ " errors, "
    ++ (getOr "warning_count" (.int 0) data).display ++ " warnings"
    ++ (if (getOr "truncated" .null data).isTruthy then " (truncated)".toList else [])

/-- Findings under their file and struct, then the totals. -/
def lint (pr : Printer) (verbose : Bool) (data : List (Text × Json)) : Rendered (List Text) := do
  let found := getOr "diagnostics" (.list []) data
  if !found.isTruthy then
    let files ← asItems (getOr "files" (.list []) data)
    pr.lines [.marked (noFindings data files.length)]
  else
    let groups ← groupBy pathOf (· == ·) (← asItems found)
    let findings ← groups.mapM (pathLines pr verbose)
    return findings.flatten ++ (← pr.lines [.marked (lintTotals data)])

/-- A row of the table of findings: range, severity, code, message. -/
def reportRow (d : Json) : Rendered (List Part) := do
  let range ← rangeText (← need "range" d)
  let shown := (← need "severity" d).shown
  let severity := if ["1".toList, "1.0".toList, "True".toList].contains shown then "error"
    else "warning"
  let cell (key : String) : Rendered Text := do return ((← optional key d).map Json.display).getD []
  return [.marked range, .literal severity, .marked (← cell "code"), .marked (← cell "message")]

def columnOf (rows : List (List Part)) (i : Nat) : List Part :=
  rows.map (·.getD i (.literal []))

def reportTable (rows : List (List Part)) : List Printer.Column :=
  [⟨"Range", true, columnOf rows 0⟩, ⟨"Severity", false, columnOf rows 1⟩,
    ⟨"Code", false, columnOf rows 2⟩, ⟨"Message", false, columnOf rows 3⟩]

/-- Findings as a table of ranges. -/
def report (pr : Printer) (op : Text) (data : List (Text × Json)) : Rendered (List Text) := do
  let found := getOr "diagnostics" (.list []) data
  let status ← statusLine pr op
  let uri ← fieldLine pr "uri" (getOr "uri" (.text []) data).display
  if !found.isTruthy then return status ++ uri ++ (← fieldLine pr "count" ['0'])
  else
    let rows ← (← asItems found).mapM reportRow
    return status ++ uri ++ (← pr.table (reportTable rows))

/-- The place that was looked up. -/
def locate (pr : Printer) (op : Text) (data : List (Text × Json)) : Rendered (List Text) := do
  let shown (key : String) : Text := (getOr key (.text []) data).display
  let range ← rangeText (← need "range" (.dict data))
  let key := getOr "key" .null data
  let status ← statusLine pr op
  let structName ← fieldLine pr "struct" (shown "struct")
  let field ← fieldLine pr "field" (shown "field")
  let key ← if key.isTruthy then fieldLine pr "key" key.display else pure []
  let range ← fieldLine pr "range" range
  return status ++ structName ++ field ++ key ++ range ++ (← fieldLine pr "text" (shown "text"))

def keyCell : Json → Rendered Part
  | .text t => .ok (.marked t)
  | .null => .ok (.literal [])
  | _ => .error .shape

/-- The vocabulary as a table of keys and classes. -/
def keys (pr : Printer) (data : List (Text × Json)) : Rendered (List Text) := do
  let classes ← asPairs (getOr "classes" (.dict []) data)
  let rows ← classes.mapM fun (c, names) => do
    return (← (← asItems names).mapM keyCell).map (·, Part.literal c)
  let rows := rows.flatten
  let table ← pr.table [⟨"Key", true, rows.map (·.1)⟩, ⟨"Class", false, rows.map (·.2)⟩]
  let count := (getOr "count" (.int 0) data).display
  return table ++ (← pr.lines [.marked ("\n" ++ count ++ " keys")])

/-- Any other data, one line for each key. -/
def generic (pr : Printer) (op : Text) (data : List (Text × Json)) : Rendered (List Text) := do
  let status ← statusLine pr op
  let fields ← data.mapM fun (key, value) =>
    fieldLine pr key (match value with
      | .dict _ => value.compact true
      | .list _ => value.compact true
      | _ => value.display)
  return status ++ fields.flatten

def operation (pr : Printer) (verbose : Bool) (o : Outcome) : Rendered (List Text) :=
  match String.ofList o.op with
  | "lint" => lint pr verbose o.data
  | "report" => report pr o.op o.data
  | "locate" => locate pr o.op o.data
  | "keys" => keys pr o.data
  | _ => generic pr o.op o.data

end TagLint.Render
