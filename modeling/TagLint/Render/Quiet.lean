import TagLint.Render.Basic

/-! The shortest form of an outcome: one line for each finding. -/
namespace TagLint.Render
open Text

def unknownError : Text := "Unknown error"

def Outcome.errorMessage (o : Outcome) : Text := (o.error.map (·.message)).getD unknownError

/-- A finding of the linter, by struct and field. -/
def lintLine (d : Json) : Rendered Text := do
  let place := (← need "struct_name" d).display ++ "." ++ (← need "field_name" d).display
  let path := (← optional "path" d).getD .null
  let place := if path.isTruthy then path.display ++ ":" ++ place else place
  return place ++ ": " ++ (← need "severity" d).display ++ ": " ++ (← need "message" d).display

/-- A finding for an editor, by line and column from one. -/
def editorLine (d : Json) : Rendered Text := do
  let start ← need "start" (← need "range" d)
  let line ← asInt (← need "line" start)
  let character ← asInt (← need "character" start)
  return ofInt (line + 1) ++ ":" ++ ofInt (character + 1) ++ ": " ++ (← need "code" d).display
    ++ ": " ++ (← need "message" d).display

def quietLine (d : Json) : Rendered Text := do
  if (← optional "struct_name" d).isSome then lintLine d else editorLine d

def quiet (o : Outcome) : Rendered Text := do
  if !o.ok then
    return "ERROR: " ++ o.op ++ " — " ++ Outcome.errorMessage o
  else
    let found ← diagnosticsOf o
    if found.isEmpty then return "OK: " ++ o.op
    else return join ['\n'] (← found.mapM quietLine)

end TagLint.Render
