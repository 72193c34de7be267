import TagLint.Struct.Basic

/-! Reported issues, before and after they are attached to a struct and a field. -/
namespace TagLint

inductive Severity where
  | error
  | warning
deriving DecidableEq, Repr, Inhabited

def Severity.name : Severity → Text
  | error => "error"
  | warning => "warning"

def Severity.ofName? (t : Text) : Option Severity :=
  [Severity.error, Severity.warning].find? (·.name = t)

structure Finding where
  severity : Severity
  message : Text
  /-- The key to highlight, when it is not the key of the entry itself. -/
  key : Option Text := none
deriving DecidableEq, Repr, Inhabited

def Finding.error (message : Text) (key : Option Text := none) : Finding := ⟨.error, message, key⟩

def Finding.warning (message : Text) (key : Option Text := none) : Finding :=
  ⟨.warning, message, key⟩

structure Diagnostic where
  structName : Text
  fieldName : Text
  tag : Text
  message : Text
  severity : Severity
  key : Option Text := none
deriving DecidableEq, Repr, Inhabited

/-- The diagnostic of a finding on a field; an empty key is no key. -/
def Finding.on (f : Finding) (structName fieldName tag key : Text) : Diagnostic :=
  ⟨structName, fieldName, tag, f.message, f.severity, if key = [] then none else some key⟩

end TagLint
