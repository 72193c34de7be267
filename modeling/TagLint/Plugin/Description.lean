import TagLint.Json.Parser
import TagLint.Json.Printer
import TagLint.Plugin.Host

/-! Rules, plugins and plugin files from documents that describe them. -/
namespace TagLint
open Text

namespace Json

def textAt? (key : String) (j : Json) : Option Text :=
  match j.get? key.toList with
  | some (.text t) => some t
  | _ => none

def textAt (key : String) (j : Json) : Text := (j.textAt? key).getD []

def listAt (key : String) (j : Json) : List Json :=
  match j.get? key.toList with
  | some (.list vs) => vs
  | _ => []

def textsAt (key : String) (j : Json) : List Text :=
  (j.listAt key).filterMap fun v => match v with
    | .text t => some t
    | _ => none

end Json

def Severity.ofJson (j : Json) : Severity :=
  ((j.textAt? "severity").bind Severity.ofName?).getD .error

def Finding.ofJson (j : Json) : Finding := ⟨Severity.ofJson j, j.textAt "message", j.textAt? "key"⟩

def RuleId.ofJson (j : Json) : RuleId :=
  match j.textAt? "id" with
  | some name => .shared name
  | none => .unnamed

/-- The rule of a description; `none` when it describes no rule. Rules that are there already are
found by their key. -/
def ValueRule.ofJson? (known : RuleBook) (j : Json) : Option ValueRule :=
  let named (check : Check) : Option ValueRule := some ⟨.ofJson j, check⟩
  match String.ofList (j.textAt "kind") with
  | "digits" => named (digits (j.textAt "label") (j.textAt? "noun"))
  | "choice" => named (choice (j.textAt "template") (j.textsAt "choices"))
  | "required" => named (required (j.textAt "message") (Severity.ofJson j))
  | "emit" => named fun _ => .ok ((j.listAt "findings").map Finding.ofJson)
  | "raise" => named fun _ => .error (.raised (j.textAt "message"))
  | "builtin" => known.get? (j.textAt "key")
  | _ => none

def ClassGiven.ofJson : Json → ClassGiven
  | .text t => .ofName t
  | v => .other v.shown

/-- What a registration hook offers, when it is described. -/
def Offer.ofJson (read : Json → α) : Json → Offer α
  | .null => .nothing
  | .dict items =>
    if (Json.lookup? "$raise" items).isSome then .fails
    else .pairs (items.map fun (k, v) => (k, read v))
  | _ => .unusable

def LintHook.ofJson : Json → LintHook
  | .text t => if t = "raise" then fails else quiet
  | _ => quiet

/-- The plugin of a description; a hook is there when its key is. -/
def Plugin.ofJson (known : RuleBook) (j : Json) : Plugin where
  className := j.textAt "class"
  keys := (j.get? "keys").map (Offer.ofJson ClassGiven.ofJson)
  rules := (j.get? "rules").map (Offer.ofJson (ValueRule.ofJson? known))
  postLint := (j.get? "post_lint").map LintHook.ofJson
  failsToStart := j.textAt "ctor" = "raise"

def PluginClass.ofJson (known : RuleBook) (j : Json) : PluginClass where
  binding := (j.textAt? "attr").getD (j.textAt "class")
  plugin := .ofJson known j
  imported := match j.get? "imported" with
    | some (.bool b) => b
    | _ => false

/-- The content of a plugin file. A blank file defines nothing. -/
def PluginModule.ofText (known : RuleBook) (t : Text) : PluginModule :=
  if allBlank t then .classes []
  else match Json.parse? t with
    | none => .broken
    | some j =>
      if (j.get? "fail").any Json.isTruthy then .broken
      else .classes ((j.listAt "classes").map (PluginClass.ofJson known))

end TagLint
