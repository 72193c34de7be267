import TagLint.Settings.Package

/-! What the program relies on in the package that checks its settings. -/
namespace TagLint
open Text Json

namespace Settings

/-- A given value counts as the check reads it; without one the default does. -/
def Taken {α : Type} (check : Json → Checked α) (default : α) (given : Option Json)
    (a : α) : Prop :=
  match given with
  | some v => check v = .ok a
  | none => a = default

/-- What a table says about a key of a section. -/
def gives (name key : Text) (pairs : Pairs) : Option Json := (lookup? name pairs).bind (get? key)

/-- Every key stands once, in the table and in each section. -/
structure Distinct (pairs : Pairs) : Prop where
  keys : (pairs.map Prod.fst).Nodup
  below : ∀ name sub, lookup? name pairs = some (.dict sub) → (sub.map Prod.fst).Nodup

end Settings

open Settings

namespace Package

/-- What is left of a key when one source lies on another: the upper value, but two tables become
one. -/
def onTop (p : Package) : Option Json → Option Json → Option Json
  | some (.dict high), some (.dict low) => some (.dict (p.merged [high, low]))
  | some v, _ => some v
  | none, low => low

/-- The documented behaviour of the package. -/
structure Lawful (p : Package) : Prop where
  /-- Yes and no are what they are. -/
  bool_bool (b : Bool) : p.bool (.bool b) = .ok b
  /-- A whole number passes from the least one on. -/
  atLeast_int {least n : Int} : least ≤ n → p.atLeast least (.int n) = .ok n
  /-- One of the words passes. -/
  exists_oneOf {α : Type} {words : List (Text × α)} {t : Text} :
    t ∈ words.map Prod.fst → ∃ a, p.oneOf words (.text t) = .ok a
  /-- A table is no yes or no. -/
  bool_dict (sub : Pairs) (b : Bool) : p.bool (.dict sub) ≠ .ok b
  /-- A table is no number. -/
  atLeast_dict (least : Int) (sub : Pairs) (n : Int) : p.atLeast least (.dict sub) ≠ .ok n
  /-- A table is no text. -/
  text_dict (sub : Pairs) (t : Text) : p.text (.dict sub) ≠ .ok t
  /-- A table is no list. -/
  texts_dict (sub : Pairs) (ts : List Text) : p.texts (.dict sub) ≠ .ok ts
  /-- A table is no word. -/
  oneOf_dict {α : Type} (words : List (Text × α)) (sub : Pairs) (a : α) :
    p.oneOf words (.dict sub) ≠ .ok a
  /-- A value that is given is checked; without one the default stands. -/
  field {α : Type} {key : Text} {check : Json → Checked α} {default : α} {pairs : Pairs} {a : α} :
    p.field key check default pairs = .ok a ↔ Taken check default (lookup? key pairs) a
  /-- An object is a table that passes the check of its class. -/
  object {α : Type} {name : Text} {check : Pairs → Checked α} {v : Json} {a : α} :
    p.object name check v = .ok a ↔ ∃ sub, v = .dict sub ∧ check sub = .ok a
  /-- Fields pass together when each of them passes. -/
  both {α β : Type} {x : Checked α} {y : Checked β} {a : α} {b : β} :
    p.both x y = .ok (a, b) ↔ x = .ok a ∧ y = .ok b
  /-- A key that is not known is an issue. -/
  onlyKnown {known : List Text} {pairs : Pairs} :
    p.onlyKnown known pairs = .ok () ↔ ∀ key ∈ pairs.map Prod.fst, key ∈ known
  /-- What variables give is a dictionary with dictionaries in it. -/
  distinct_variables {names : VariableNames} {environment : List (Text × Text)} {pairs : Pairs} :
    (names.single ++ names.sections.map Prod.fst).Nodup →
    p.fromVariables names environment = some pairs → Distinct pairs
  /-- A source alone stays as it is. -/
  merged_one (pairs : Pairs) : p.merged [pairs] = pairs
  /-- The sources are taken in from the top, one after the other. -/
  merged_cons (first second : Pairs) (rest : List Pairs) :
    p.merged (first :: second :: rest) = p.merged (p.merged [first, second] :: rest)
  /-- Two sources make a dictionary again. -/
  nodup_merged {high low : Pairs} : (high.map Prod.fst).Nodup → (low.map Prod.fst).Nodup →
    ((p.merged [high, low]).map Prod.fst).Nodup
  /-- The merge goes down into tables that both sources have. -/
  lookup?_merged {high : Pairs} (low : Pairs) (key : Text) : (high.map Prod.fst).Nodup →
    lookup? key (p.merged [high, low]) = p.onTop (lookup? key high) (lookup? key low)

end Package
end TagLint
