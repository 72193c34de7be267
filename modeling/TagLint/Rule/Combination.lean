import TagLint.Rule.Value

/-! Rules for keys that meet in one field. -/
namespace TagLint
open Text

/-- The first entry of every key of a field, in order. -/
abbrev FieldScan := List TagEntry

namespace FieldScan

def find? (scan : FieldScan) (key : Text) : Option TagEntry := List.find? (·.lowered = key) scan

def has (scan : FieldScan) (key : Text) : Bool := (scan.find? key).isSome

/-- The key as first written. -/
def token (scan : FieldScan) (key : Text) : Text := ((scan.find? key).map TagEntry.token).getD key

def observe (scan : FieldScan) (e : TagEntry) : FieldScan :=
  if scan.has e.lowered then scan else scan ++ [e]

def ofEntries (entries : List TagEntry) : FieldScan := entries.foldl observe []

end FieldScan

namespace Combination

def primaryKey : Text := "primarykey"
def unique : Text := "unique"
def notNull : Text := "not null"
def ignore : Text := "-"
def permissions : List Text := ["<-", "->", "-"]

/-- The other key of the pair that excludes this one. -/
def rival? (key : Text) : Option Text :=
  if key = primaryKey then some unique else if key = unique then some primaryKey else none

/-- One error for either key, when the entry meets its rival. -/
def pairConflicts (scan : FieldScan) (e : TagEntry) : List Finding :=
  match rival? e.lowered with
  | none => []
  | some other =>
    if scan.has other then
      let earlier := scan.token other
      let conflict (a b : Text) : Finding :=
        .error ("'" ++ a ++ "' and '" ++ b ++ "' cannot be used together") (some a)
      [conflict earlier e.token, conflict e.token earlier]
    else []

def primaryKeyNotNull (scan : FieldScan) : List Finding :=
  if scan.has primaryKey && scan.has notNull then
    [.warning ("'" ++ scan.token primaryKey
      ++ "' automatically implies 'not null'. Remove 'not null' tag.") (some (scan.token notNull))]
  else []

def ignoredWithOtherKeys (scan : FieldScan) : List Finding :=
  if scan.has ignore && 2 ≤ scan.length then
    let others := (scan.map TagEntry.token).filter (· ≠ ignore)
    [.error ("Field marked as ignored ('-') cannot have other tags: " ++ join ", " others
      ++ ". Remove conflicting tags.") (some ignore)]
  else []

def conflictingPermissions (scan : FieldScan) : List Finding :=
  let found := permissions.filter scan.has
  if 2 ≤ found.length then
    [.error ("Conflicting permission tags: " ++ join ", " found
      ++ ". Use only one permission control tag.") found.getLast?]
  else []

def indexWithUniqueIndex (scan : FieldScan) : List Finding :=
  if scan.has "index" && scan.has "uniqueindex" then
    [.warning "Field has both 'index' and 'uniqueIndex'. Consider using only 'uniqueIndex'."
      (some (scan.token "index"))]
  else []

def foreignKeyWithoutReferences (scan : FieldScan) : List Finding :=
  if scan.has "foreignkey" && !scan.has "references" then
    [.warning ("'foreignKey' should be used together with 'references' "
      ++ "for proper relationship definition.") (some (scan.token "foreignkey"))]
  else []

def many2manyWithForeignKeys (scan : FieldScan) : List Finding :=
  if scan.has "many2many" && (scan.has "foreignkey" || scan.has "references") then
    [.error ("'many2many' cannot be used with 'foreignKey' or 'references'. "
      ++ "Use association struct instead.") (some (scan.token "many2many"))]
  else []

def embeddedWithColumn (scan : FieldScan) : List Finding :=
  if scan.has "embedded" && scan.has "column" then
    [.error "'embedded' fields expand into multiple columns, 'column' tag is not applicable."
      (some (scan.token "column"))]
  else []

/-- No conflict, only a reminder. -/
def dualTimeTracking (scan : FieldScan) : List Finding :=
  if scan.has "autocreatetime" && scan.has "autoupdatetime" then
    [.warning "Field has both creation and update time tracking. Ensure this is intentional."
      (some (scan.token "autoupdatetime"))]
  else []

/-- The rules that look at all keys of a field together, in the order of their findings. -/
def rules : List (FieldScan → List Finding) := [
  primaryKeyNotNull, ignoredWithOtherKeys, conflictingPermissions, indexWithUniqueIndex,
  foreignKeyWithoutReferences, many2manyWithForeignKeys, embeddedWithColumn, dualTimeTracking]

def findings (scan : FieldScan) : List Finding := rules.flatMap (· scan)

end Combination
end TagLint
