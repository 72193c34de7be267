import TagLint.Text.Case
import TagLint.Text.Quoted

/-! The tag keys that are known, with their class and their documented spelling. -/
namespace TagLint
open Text

inductive KeyClass where
  | recommended
  /-- Valid relationship keys, to be used with care. -/
  | caution
  | deprecated
  | unknown
deriving DecidableEq, Repr, Inhabited

namespace KeyClass

def all : List KeyClass := [recommended, caution, deprecated, unknown]

def name : KeyClass → Text
  | recommended => "recommended"
  | caution => "caution"
  | deprecated => "deprecated"
  | unknown => "unknown"

def ofName? (t : Text) : Option KeyClass := all.find? (·.name = t)

def isValid (c : KeyClass) : Bool := c != unknown

def isRecommended (c : KeyClass) : Bool := c == recommended

end KeyClass

/-- A class as a caller names it: a class, or a value that is none, as messages show it. -/
inductive ClassGiven where
  | known (c : KeyClass)
  | other (shown : Text)
deriving DecidableEq, Repr

def ClassGiven.ofName (t : Text) : ClassGiven :=
  match KeyClass.ofName? t with
  | some c => .known c
  | none => .other (quoted t)

/-- Keys are compared trimmed and in lower case. -/
def foldKey (key : Text) : Text := lower (trim key)

structure KeyRow where
  folded : Text
  name : Text
  keyClass : KeyClass
deriving DecidableEq, Repr

namespace Vocabulary

def builtinNames : List (List String × KeyClass) := [
  (["column", "type", "size", "primaryKey", "autoIncrement", "not null", "default", "unique",
    "embedded", "embeddedPrefix", "-"], .recommended),
  (["index", "uniqueIndex", "priority", "check", "constraint"], .recommended),
  (["autoCreateTime", "autoUpdateTime"], .recommended),
  (["precision", "scale", "autoIncrementIncrement"], .recommended),
  (["<-", "->", "comment"], .recommended),
  (["serializer"], .recommended),
  (["sort", "length", "class", "where", "option", "composite"], .recommended),
  (["foreignKey", "references", "many2many", "joinForeignKey", "joinReferences", "polymorphic",
    "polymorphicValue"], .caution),
  (["primary_key", "foreign_key", "association_foreign_key", "association_save_reference",
    "auto_create_time", "auto_update_time", "foreignkey_tag", "association_foreignkey_tag"],
    .deprecated),
  (["association_foreignkey", "associationForeignKey", "associationReferences", "joinColumn",
    "associationJoinColumn"], .unknown)]

/-- The documented keys, group by group. -/
def builtin : List KeyRow :=
  builtinNames.flatMap fun (names, keyClass) =>
    names.map fun (n : String) => ⟨lower n.toList, n.toList, keyClass⟩

def isBuiltin (folded : Text) : Bool := builtin.any (·.folded = folded)

end Vocabulary

/-- The built-in keys are fixed; other keys follow them in the order they were added. -/
structure Vocabulary where
  added : List KeyRow := []
deriving DecidableEq, Repr, Inhabited

inductive VocabularyError where
  | blankKey
  | builtinKey (name : Text)
  | notAClass (shown : Text)
  | unknownClass (name : Text)
  | taken (name : Text) (keyClass : KeyClass)
deriving DecidableEq, Repr

def VocabularyError.message : VocabularyError → Text
  | blankKey => "Tag key must not be empty"
  | builtinKey name => "Tag key " ++ quoted name ++ " conflicts with a built-in key"
  | notAClass shown => shown ++ " is not a valid KeyClass"
  | unknownClass name => "Tag key " ++ quoted name ++ " cannot be registered as unknown"
  | taken name c => "Tag key " ++ quoted name ++ " is already registered as " ++ c.name

namespace Vocabulary

def rows (v : Vocabulary) : List KeyRow := builtin ++ v.added

def row? (v : Vocabulary) (key : Text) : Option KeyRow := v.rows.find? (·.folded = foldKey key)

/-- The class of a key in any casing. -/
def classify (v : Vocabulary) (key : Text) : KeyClass :=
  ((v.row? key).map (·.keyClass)).getD .unknown

/-- The documented spelling of a key, or the trimmed key itself. -/
def canonicalName (v : Vocabulary) (key : Text) : Text :=
  ((v.row? key).map (·.name)).getD (trim key)

/-- A row that is there already keeps its place. -/
def put (row : KeyRow) : List KeyRow → List KeyRow
  | [] => [row]
  | r :: rs => if r.folded = row.folded then row :: rs else r :: put row rs

/-- Adds a key with a class. A key that is there already is accepted only with the class it has. -/
def addKey (v : Vocabulary) (key : Text) (given : ClassGiven) : Except VocabularyError Vocabulary :=
  let name := trim key
  let folded := lower name
  if name = [] then .error .blankKey
  else if isBuiltin folded then .error (.builtinKey name)
  else match given with
    | .other shown => .error (.notAClass shown)
    | .known .unknown => .error (.unknownClass name)
    | .known c =>
      match v.added.find? (·.folded = folded) with
      | some r =>
        if r.keyClass = c then .ok ⟨put ⟨folded, name, c⟩ v.added⟩
          else .error (.taken name r.keyClass)
      | none => .ok ⟨put ⟨folded, name, c⟩ v.added⟩

/-- Built-in keys stay. -/
def dropKey (v : Vocabulary) (key : Text) : Vocabulary :=
  ⟨v.added.filter (·.folded ≠ foldKey key)⟩

/-- The names of one class, in table order. -/
def namesOf (v : Vocabulary) (c : KeyClass) : List Text :=
  (v.rows.filter (·.keyClass = c)).map (·.name)

/-- The names by class, classes in the order of their first key. -/
def byClass (v : Vocabulary) : List (KeyClass × List Text) :=
  (v.rows.map (·.keyClass)).eraseDups.map fun c => (c, v.namesOf c)

end Vocabulary
end TagLint
