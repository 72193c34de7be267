import TagLint.Rule.Value

/-! Plugins as the host sees them: what each hook gives when it is called. -/
namespace TagLint

/-- What a registration hook returns. -/
inductive Offer (α : Type) where
  | nothing
  /-- A value that is no mapping. -/
  | unusable
  | fails
  | pairs (items : List (Text × α))

/-- A hook that is told about a linted document: its path, and how many errors and warnings it has.
What counts is on which of these calls the hook fails. A run tells of every document once, under a
path of its own, so a hook that fails at any calls of a run is such a choice, whatever it remembers
of the calls before. -/
structure LintHook where
  failsOn : Text → Nat → Nat → Bool

namespace LintHook

def quiet : LintHook := ⟨fun _ _ _ => false⟩

def fails : LintHook := ⟨fun _ _ _ => true⟩

end LintHook

/-- A hook that is `none` is not implemented. -/
structure Plugin where
  className : Text
  keys : Option (Offer ClassGiven) := none
  /-- A rule that is `none` is no rule at all. -/
  rules : Option (Offer (Option ValueRule)) := none
  postLint : Option LintHook := none
  failsToStart : Bool := false

def Plugin.hasHooks (p : Plugin) : Bool := p.keys.isSome || p.rules.isSome || p.postLint.isSome

/-- A class in a plugin file. -/
structure PluginClass where
  binding : Text
  plugin : Plugin
  /-- Defined elsewhere and only imported. -/
  imported : Bool := false

/-- A plugin file: it cannot be loaded, or it defines classes. -/
inductive PluginModule where
  | broken
  | classes (items : List PluginClass)

structure LintEvent where
  plugin : Text
  path : Text
  errors : Nat
  warnings : Nat
deriving DecidableEq, Repr

/-- A message for the log, at warning level. -/
structure LogWarning where
  message : Text
deriving DecidableEq, Repr

end TagLint
