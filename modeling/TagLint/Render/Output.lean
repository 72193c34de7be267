import TagLint.Render.Console
import TagLint.Render.Operation
import TagLint.Render.Quiet
import TagLint.Render.Telemetry

/-! The text of an outcome in each output mode. -/
namespace TagLint
open Text

inductive OutputMode where
  | json
  | quiet
  | full
  /-- With tags, details and notes. -/
  | verbose
deriving DecidableEq, Repr

namespace OutputMode

def ofFlags (json quiet verbose : Bool) : OutputMode :=
  if json then .json else if quiet then .quiet else if verbose then .verbose else .full

def ofName? (name : Text) : Option OutputMode :=
  match String.ofList name with
  | "json" => some .json
  | "quiet" => some .quiet
  | "rich" => some .full
  | "verbose" => some .verbose
  | _ => none

end OutputMode

namespace Render

/-- Details of an error are lines of their own. -/
def detailLines (pr : Printer) (e : OutcomeError) : Rendered (List Text) := do
  if e.detail.isEmpty then return []
  else
    let title ← pr.lines [.literal "  detail:"]
    let found ← e.detail.mapM fun (k, v) =>
      pr.lines [.marked ("    " ++ k ++ ": " ++ v.display)]
    return title ++ found.flatten

/-- Style tags count in the message, not in the name of the operation. -/
def failure (pr : Printer) (verbose : Bool) (o : Outcome) : Rendered (List Text) := do
  let line ← pr.lines [.literal "ERROR", .literal ("  " ++ o.op), .marked " — ",
    .marked (Outcome.errorMessage o)]
  match verbose, o.error with
  | true, some e => return line ++ (← detailLines pr e)
  | _, _ => return line

def lines (pr : Printer) (verbose : Bool) (o : Outcome) : Rendered (List Text) := do
  if !o.ok then failure pr verbose o
  else if verbose then return (← operation pr verbose o) ++ (← infoLines pr o)
  else operation pr verbose o

/-- Lines as one text, without the empty ones at the end. -/
def page (ls : List Text) : Text :=
  ((join ['\n'] ls).reverse.dropWhile (· == '\n')).reverse

end Render

/-- The text of an outcome. -/
def Printer.render (pr : Printer) (mode : OutputMode) (o : Outcome) : Render.Rendered Text :=
  match mode with
  | .json => pr.document o.toJson
  | .quiet => Render.quiet o
  | .full => (Render.lines pr false o).map Render.page
  | .verbose => (Render.lines pr true o).map Render.page

def Outcome.render (mode : OutputMode) (o : Outcome) : Except RenderError Text :=
  Printer.console.render mode o

end TagLint
