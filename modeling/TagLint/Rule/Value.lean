import TagLint.Diagnostic
import TagLint.Rule.Quotes
import TagLint.Rule.Template
import TagLint.Tag.Entry

/-! Rules for the value of a key. -/
namespace TagLint
open Text

/-- Tells rules apart where it matters whether two are the same one. -/
inductive RuleId where
  | builtin (key : Text)
  | shared (name : Text)
  | unnamed
deriving DecidableEq, Repr

/-- A rule without a name is never known again. -/
def RuleId.isSame (a b : RuleId) : Bool := a != unnamed && a == b

structure ValueRule where
  id : RuleId
  check : TagEntry → Except RuleFailure (List Finding)

namespace ValueRule

abbrev Check := TagEntry → Except RuleFailure (List Finding)

/-- A value must be all digits. A final newline is let through. -/
def isDigits (value : Text) : Bool :=
  let body := if value.getLast? = some '\n' then value.dropLast else value
  !body.isEmpty && body.all isDecimal

def digits (label : Text) (noun : Option Text := none) : Check := fun e =>
  if e.value = [] ∨ isDigits e.value then .ok []
  else
    let subject := match noun with
      | some n => if n = [] then "Must".toList else n ++ " must"
      | none => "Must"
    .ok [.error ("Invalid " ++ label ++ " value '" ++ e.value ++ "'. " ++ subject
      ++ " be a positive integer.")]

/-- A value must be one of the choices in any casing. -/
def choice (template : Text) (choices : List Text) : Check := fun e =>
  if e.value = [] ∨ choices.contains (lower e.value) then .ok []
  else (Template.fill e.value template).map fun m => [.error m]

def required (message : Text) (severity : Severity := .error) : Check := fun e =>
  .ok (if allBlank e.value then [⟨severity, message, none⟩] else [])

def constraintOptions : List Text := ["onupdate", "ondelete"]

def constraintOption (part : Text) : Text := trim (before ":" part)

def constraint : Check := fun e =>
  if allBlank e.value then
    .ok [.error
      "Constraint tag requires constraint options (e.g., OnUpdate:CASCADE,OnDelete:SET NULL)."]
  else
    let options := (split ',' e.value).map constraintOption
    let unknown := options.filter fun o => o ≠ [] ∧ !constraintOptions.contains (lower o)
    .ok (unknown.map fun o =>
      .warning ("Invalid constraint option '" ++ o ++ "'. Valid options: OnUpdate, OnDelete."))

def unmatchedQuotes (b : QuoteBalance) : List Finding :=
  match b.unbalancedKind? with
  | none => []
  | some kind =>
    [.error ("Comment value has unmatched " ++ kind.name ++ " quotes. Found "
      ++ ofNat b.unbalancedCount ++ " " ++ kind.name
      ++ " quotes, expected even number for proper closure.")]

def comment : Check := fun e =>
  if allBlank e.value then .ok [.warning "Comment tag requires a comment text."]
  else
    .ok (unmatchedQuotes (.ofText e.value) ++
      if hasMixedQuotes e.value then
        [.warning ("Comment value contains both single and double quotes. "
          ++ "Consider using consistent quote style or proper escaping.")]
      else [])

def default : Check := fun e =>
  .ok (if hasMixedQuotes e.value then
      [.warning "Default value should use consistent quote style."]
    else [])

/-- The rules that come with the keys; they cannot be replaced. -/
def builtinChecks : List (String × Check) := [
  ("size", digits "size" (some "Size")),
  ("precision", digits "precision" (some "Precision")),
  ("scale", digits "scale" (some "Scale")),
  ("autoincrementincrement", digits "autoIncrementIncrement"),
  ("length", digits "length" (some "Length")),
  ("priority", digits "priority" (some "Priority")),
  ("sort", choice "Invalid sort value '\x7bvalue\x7d'. Valid options: asc, desc." ["asc", "desc"]),
  ("serializer", choice "Invalid serializer '\x7bvalue\x7d'. Valid options: json, gob, unixtime."
    ["json", "gob", "unixtime"]),
  ("autocreatetime", choice
    "Invalid time precision '\x7bvalue\x7d'. Valid options: '', 'nano', 'milli'."
      ["nano", "milli"]),
  ("autoupdatetime", choice
    "Invalid time precision '\x7bvalue\x7d'. Valid options: '', 'nano', 'milli'."
      ["nano", "milli"]),
  ("<-", choice
    "Invalid write permission '\x7bvalue\x7d'. Valid options: 'create', 'update', 'false'."
      ["create", "update", "false"]),
  ("->", choice "Invalid read permission '\x7bvalue\x7d'. Valid option: 'false'." ["false"]),
  ("-", choice "Invalid ignore option '\x7bvalue\x7d'. Valid options: '', 'all', 'migration'."
    ["all", "migration"]),
  ("type", required "Type tag requires a value."),
  ("column", required "Column tag requires a column name."),
  ("check", required "Check constraint requires a condition."),
  ("foreignkey", required "ForeignKey tag requires a field name."),
  ("references", required "References tag requires a field name."),
  ("many2many", required "Many2many tag requires a table name."),
  ("joinforeignkey", required "joinForeignKey tag requires a field name."),
  ("joinreferences", required "joinReferences tag requires a field name."),
  ("embeddedprefix", required "EmbeddedPrefix tag requires a prefix value." .warning),
  ("constraint", constraint),
  ("comment", comment),
  ("default", default)]

def builtin : List (Text × ValueRule) :=
  builtinChecks.map fun (key, check) => (key.toList, ⟨.builtin key, check⟩)

end ValueRule

inductive RuleBookError where
  | blankKey
  | notARule (key : Text)
  | builtinKey (key : Text)
  | taken (key : Text)
deriving DecidableEq, Repr

def RuleBookError.message : RuleBookError → Text
  | blankKey => "Rule key must not be empty"
  | notARule key => "Value rule for " ++ quoted key ++ " must be callable"
  | builtinKey key => "Value rule " ++ quoted key ++ " conflicts with a built-in rule"
  | taken key => "Value rule " ++ quoted key ++ " is already registered"

/-- The value rules that were added to the built-in ones. -/
structure RuleBook where
  added : List (Text × ValueRule) := []

namespace RuleBook

def rules (b : RuleBook) : List (Text × ValueRule) := ValueRule.builtin ++ b.added

def isBuiltin (folded : Text) : Bool := ValueRule.builtin.any (·.1 = folded)

/-- Look-up is by lower case alone: blanks around the key count. -/
def get? (b : RuleBook) (key : Text) : Option ValueRule :=
  (b.rules.find? (·.1 = lower key)).map (·.2)

/-- Adds a rule for a key without one; `none` stands for something that is no rule. The same rule
may be added again. -/
def addRule (b : RuleBook) (key : Text) (rule : Option ValueRule) :
    Except RuleBookError RuleBook :=
  let folded := foldKey key
  if folded = [] then .error .blankKey
  else match rule with
    | none => .error (.notARule key)
    | some r =>
      if isBuiltin folded then .error (.builtinKey key)
      else match b.added.find? (·.1 = folded) with
        | none => .ok ⟨b.added ++ [(folded, r)]⟩
        | some (_, old) => if old.id.isSame r.id then .ok b else .error (.taken key)

def dropRule (b : RuleBook) (key : Text) : RuleBook := ⟨b.added.filter (·.1 ≠ foldKey key)⟩

end RuleBook

/-- Everything that decides what an entry means. -/
structure Registry where
  vocabulary : Vocabulary := {}
  rules : RuleBook := {}

end TagLint
