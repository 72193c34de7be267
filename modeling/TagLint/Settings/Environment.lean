import TagLint.Json.Parser
import TagLint.Settings.Package
import TagLint.Text.Case

/-! Settings from environment variables, and sources laid over each other. -/
namespace TagLint.Environment
open Text Json

/-! ## Tables over tables -/

mutual

/-- What a key holds when a value is laid over the old one: the new value, but of two tables one
with the keys of both. -/
def laid (old : Option Json) : Json → Json
  | .dict high =>
    match old with
    | some (.dict low) => .dict (overlay low high)
    | _ => .dict high
  | v => v

/-- Values of the second table win; tables merge. -/
def overlay (low : Pairs) : List (Text × Json) → Pairs
  | [] => low
  | (k, v) :: rest => overlay (put k (laid (lookup? k low) v) low) rest

end

/-- Tables over each other, the first on top. -/
def merged (sources : List Pairs) : Pairs :=
  sources.foldl (fun high low => overlay low high) []

/-! ## Variables -/

/-- Puts a value behind nested keys. A value that is no table takes no keys. -/
def insert (value : Json) : List Text → Pairs → Pairs
  | [], pairs => pairs
  | [k], pairs => put k value pairs
  | k :: ks, pairs =>
    match lookup? k pairs with
    | none => put k (.dict (insert value ks [])) pairs
    | some (.dict sub) => put k (.dict (insert value ks sub)) pairs
    | some _ => pairs

/-- The parts of a name between cuts. -/
def nameParts (cut : Text) (fuel : Nat) (name : Text) : List Text :=
  match fuel, find? cut name with
  | fuel + 1, some i => name.take i :: nameParts cut fuel (name.drop (i + cut.length))
  | _, _ => [name]

/-- Names are compared in lower case; of two that agree the later counts. -/
def folded (vars : List (Text × Text)) : List (Text × Text) :=
  vars.foldl (fun kept (name, value) =>
    let name := lower name
    if kept.any (·.1 = name) then kept.map fun (k, v) => if k = name then (k, value) else (k, v)
    else kept ++ [(name, value)]) []

/-- The value of a variable, its name in lower case. -/
def value? (name : Text) (vars : List (Text × Text)) : Option Text :=
  (vars.find? (·.1 = lower name)).map (·.2)

/-- One variable of a section. Lists are written as documents; `none` when one cannot be read. -/
def sectionVariable? (keys : List (Text × Bool)) (parts : List Text) (value : Text)
    (pairs : Pairs) : Option Pairs :=
  match parts with
  | [key] =>
    if keys.contains (key, true) ∧ value ≠ [] then
      (parse? value).map fun v => insert v parts pairs
    else some (insert (.text value) parts pairs)
  | _ => some (insert (.text value) parts pairs)

/-- What the single variables of a section give. -/
def sectionPairs? (start cut : Text) (keys : List (Text × Bool)) (vars : List (Text × Text)) :
    Option Pairs :=
  vars.foldlM (fun pairs (v, value) =>
    match after? (lower (start ++ cut)) v with
    | some rest => sectionVariable? keys (nameParts (lower cut) rest.length rest) value pairs
    | none => some pairs) []

/-- The key of a section that is meant; letters count in any case. -/
def spelling (keys : List (Text × Bool)) (key : Text) : Text :=
  ((keys.find? fun k => lower k.1 = lower key).map (·.1)).getD key

/-- A table with its keys spelled as the section has them; of two that agree the later counts. -/
def respelled (keys : List (Text × Bool)) (pairs : Pairs) : Pairs :=
  pairs.foldl (fun kept (k, v) => put (spelling keys k) v kept) []

/-- A section as a whole, given as a document, with its single variables laid over it. -/
def section? (start cut : Text) (keys : List (Text × Bool)) (vars : List (Text × Text)) :
    Option (Option Json) := do
  let own ← sectionPairs? start cut keys vars
  match value? start vars with
  | none => some (if own.isEmpty then none else some (.dict (respelled keys own)))
  | some document =>
    match ← parse? document with
    | .null => some none
    | .dict pairs => some (some (.dict (respelled keys (overlay pairs own))))
    | v => some (some v)

/-- All settings that variables give; `none` when a document among them cannot be read. -/
def settings? (names : VariableNames) (vars : List (Text × Text)) : Option Pairs := do
  let vars := folded vars
  let single := names.single.filterMap fun name =>
    (value? (names.start ++ name) vars).map fun t => (name, Json.text t)
  let sections ← names.sections.filterMapM fun (name, keys) =>
    (section? (names.start ++ name) names.cut keys vars).map fun found => found.map (name, ·)
  some (single ++ sections)

end TagLint.Environment
