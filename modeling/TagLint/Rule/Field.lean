import TagLint.Rule.Combination
import TagLint.Tag.Segment

/-! The pass over the entries of one field. -/
namespace TagLint
open Text

/-- A finding with the key to highlight, empty for none. -/
abbrev Anchored := Finding × Text

namespace FieldPass

/-- An empty key in a finding falls back like a missing one. -/
def anchor (fallback : Text) (f : Finding) : Anchored :=
  (f, match f.key with
    | some k => if k = [] then fallback else k
    | none => fallback)

def duplicate (e : TagEntry) : Finding :=
  .error ("Duplicate GORM tag key '" ++ e.token ++ "' in field")

/-- What the class of a key says about it. -/
def verdict (c : KeyClass) (e : TagEntry) : List Finding :=
  match c with
  | .recommended => []
  | .unknown =>
    [.error ("Unknown GORM tag '" ++ e.token ++ "'. Check GORM documentation for valid tags.")]
  | _ =>
    [.warning ("GORM tag '" ++ e.token
      ++ "' is deprecated or not recommended. Consider using alternative approaches.")]

def valueFindings (r : Registry) (e : TagEntry) : Except RuleFailure (List Finding) :=
  match r.rules.get? e.lowered with
  | some rule => rule.check e
  | none => .ok []

/-- The findings of one entry, given the entries before it. -/
def ofEntry (r : Registry) (scan : FieldScan) (e : TagEntry) :
    Except RuleFailure (List Anchored) := do
  let first := !scan.has e.lowered
  let repeated := if first then [] else [duplicate e]
  let values ← valueFindings r e
  let pairs := if first then Combination.pairConflicts scan e else []
  return (repeated ++ verdict (r.vocabulary.classify e.key) e ++ values ++ pairs).map
    (anchor e.token)

def ofEntries (r : Registry) (scan : FieldScan) :
    List TagEntry → Except RuleFailure (List Anchored)
  | [] => .ok ((Combination.findings scan).map (anchor []))
  | e :: es => return (← ofEntry r scan e) ++ (← ofEntries r (scan.observe e) es)

/-- All findings of a field, in the order of its entries, then those on its keys together. -/
def findings (r : Registry) (entries : List TagEntry) : Except RuleFailure (List Anchored) :=
  ofEntries r [] entries

end FieldPass
end TagLint
