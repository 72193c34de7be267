import TagLint.Rule.Field

/-! Rules for the fields of a struct together. -/
namespace TagLint
open Text

/-- A field with the entries of its tag. -/
abbrev ScannedField := FieldDecl × List TagEntry

namespace StructRule

def diagnostic (s : StructDecl) (f : FieldDecl) (finding : Finding) (key : Text) : Diagnostic :=
  ⟨s.name, f.name, f.tag, finding.message, finding.severity, some key⟩

def column : Text := "column"

/-- The fields that name a column, in order, once for every time they do. -/
def columnClaims (scanned : List ScannedField) : List (FieldDecl × TagEntry) :=
  scanned.flatMap fun (f, entries) =>
    (entries.filter fun e => e.lowered = column ∧ e.value ≠ []).map fun e => (f, e)

/-- A column belongs to the field that names it first. -/
def owner? (claims : List (FieldDecl × TagEntry)) (column : Text) : Option FieldDecl :=
  (claims.find? (·.2.value = column)).map (·.1)

def columnNames (s : StructDecl) (scanned : List ScannedField) : List Diagnostic :=
  let claims := columnClaims scanned
  claims.filterMap fun (f, e) =>
    match owner? claims e.value with
    | some owner =>
      if owner.name = f.name then none
      else some (diagnostic s f (.error ("Duplicate column name '" ++ e.value
        ++ "' already used by field '" ++ owner.name
        ++ "'. Each column name must be unique within the struct.")) e.token)
    | none => none

/-- The fields marked as primary key, with the key as written first. -/
def primaryKeys (scanned : List ScannedField) : List (FieldDecl × Text) :=
  scanned.filterMap fun (f, entries) =>
    (entries.find? (·.lowered = Combination.primaryKey)).map fun e => (f, e.token)

def multiplePrimaryKeys (s : StructDecl) (scanned : List ScannedField) : List Diagnostic :=
  let marked := primaryKeys scanned
  if marked.length < 2 then []
  else marked.map fun (f, token) => diagnostic s f (.error
    "Multiple primary keys found in struct. Only one primary key is allowed.") token

/-- The name part of an index value, before the options. -/
def indexName (value : Text) : Text := trim (before "," value)

def indexKeys : List Text := ["index", "uniqueindex"]

def indexName? (e : TagEntry) : Option Text :=
  if indexKeys.contains e.lowered ∧ indexName e.value ≠ [] then some (indexName e.value) else none

/-- The index names of a struct, in the order they first appear. -/
def indexNames (scanned : List ScannedField) : List Text :=
  (scanned.flatMap fun (_, entries) => entries.filterMap indexName?).eraseDups

/-- The fields that use an index name, each with the first key that does. -/
def indexMembers (scanned : List ScannedField) (name : Text) : List (FieldDecl × Text) :=
  scanned.filterMap fun (f, entries) =>
    (entries.find? (indexName? · = some name)).map fun e => (f, e.token)

def sharedIndexes (s : StructDecl) (scanned : List ScannedField) : List Diagnostic :=
  (indexNames scanned).flatMap fun name =>
    let members := indexMembers scanned name
    if members.length < 2 then []
    else members.map fun (f, token) => diagnostic s f (.warning ("Index '" ++ name
      ++ "' is used by multiple fields: " ++ join ", " (members.map (·.1.name))
      ++ ". Ensure this is intended for composite index.")) token

def findings (s : StructDecl) (scanned : List ScannedField) : List Diagnostic :=
  columnNames s scanned ++ multiplePrimaryKeys s scanned ++ sharedIndexes s scanned

end StructRule
end TagLint
