import TagLint.FileTree.Basic
import TagLint.Text.Similarity

/-! Options and arguments of a command line, and what can be wrong with them. -/
namespace TagLint.Command
open Text

/-- What an option takes. -/
inductive ValueKind where
  | text
  | file
  | directory
  /-- A whole number from one. -/
  | positive
  | choice (names : List Text)
deriving DecidableEq, Repr

inductive OptionName where
  | help
  | version
  | examples
  | json
  | quiet
  | verbose
  | logJson
  | config
  | projectRoot
  | maxProblems
  | minSeverity
  | plugins
  | noPlugins
  | errorsOnly
  | key
  | uri
  | kind
deriving DecidableEq, Repr

structure OptionSpec where
  name : OptionName
  forms : List Text
  /-- `none` for a flag. -/
  takes : Option ValueKind := none
deriving DecidableEq, Repr

namespace OptionSpec

def isShort (form : Text) : Bool := form.length == 2

def longForms (o : OptionSpec) : List Text := o.forms.filter (!isShort ·)

/-- The forms as a message names them. -/
def hint (o : OptionSpec) : Text := join " / " (o.forms.map quoted)

end OptionSpec

/-- Why a value is refused. -/
inductive ValueFault where
  | notNumber (given : Text)
  | tooSmall (given : Int)
  | notChoice (given : Text) (names : List Text)
  | isDirectory (given : Text)
  | isFile (given : Text)
deriving DecidableEq, Repr

def ValueFault.message : ValueFault → Text
  | notNumber given => quoted given ++ " is not a valid integer range."
  | tooSmall n => ofInt n ++ " is not in the range x>=1."
  | notChoice given names =>
    quoted given ++ " is not one of " ++ join ", " (names.map quoted) ++ "."
  | isDirectory given => "File " ++ quoted given ++ " is a directory."
  | isFile given => "Directory " ++ quoted given ++ " is a file."

/-- Why a command line is refused. -/
inductive UsageFault where
  | noSuchOption (given : Text) (close : List Text)
  | needsValue (form : Text)
  | takesNoValue (form : Text)
  | noSuchCommand (given : Text) (close : List Text)
  | missingArgument (name : Text)
  | extraArguments (given : List Text)
  | invalidValue (hint : Text) (fault : ValueFault)
deriving DecidableEq, Repr

namespace UsageFault

def suggestion (close : List Text) : Text :=
  match FileTree.sorted close with
  | [] => []
  | [one] => " Did you mean " ++ quoted one ++ "?"
  | several => " (Did you mean one of: " ++ join ", " (several.map quoted) ++ "?)"

def message : UsageFault → Text
  | noSuchOption given close => "No such option " ++ quoted given ++ "." ++ suggestion close
  | needsValue form => "Option " ++ quoted form ++ " requires an argument."
  | takesNoValue form => "Option " ++ quoted form ++ " does not take a value."
  | noSuchCommand given close => "No such command " ++ quoted given ++ "." ++ suggestion close
  | missingArgument name => "Missing argument '" ++ name ++ "'."
  | extraArguments given =>
    (if given.length = 1 then "Got unexpected extra argument ("
      else "Got unexpected extra arguments (")
      ++ join " " given ++ ")"
  | invalidValue hint fault => "Invalid value for " ++ hint ++ ": " ++ fault.message

/-- Faults in the form of an option are told without the usage line. -/
def showsUsage : UsageFault → Bool
  | needsValue _ => false
  | takesNoValue _ => false
  | _ => true

end UsageFault

/-- An option as it was given. -/
structure GivenOption where
  spec : OptionSpec
  value : Option Text := none
deriving DecidableEq, Repr

/-- Options in the order given, and the arguments. -/
structure Scanned where
  options : List GivenOption := []
  arguments : List Text := []
deriving DecidableEq, Repr

abbrev Scan (α : Type) := Except UsageFault α

/-- The value of an option: attached to it, or else the next argument. The flag says whether that
one is used up. -/
def takeValue (spec : OptionSpec) (form : Text) (attached next : Option Text) :
    Scan (GivenOption × Bool) :=
  match attached, next with
  | some v, _ => .ok (⟨spec, some v⟩, false)
  | none, some v => .ok (⟨spec, some v⟩, true)
  | none, none => .error (.needsValue form)

/-- Short options in one argument; the first that takes a value takes all that follows. -/
def readShort (specs : List OptionSpec) (next : Option Text) : Text → Scan (List GivenOption × Bool)
  | [] => .ok ([], false)
  | c :: cs =>
    let form := ['-', c]
    match specs.find? (·.forms.contains form) with
    | none => .error (.noSuchOption form [])
    | some spec =>
      match spec.takes with
      | some _ =>
        (takeValue spec form (if cs = [] then none else some cs) next).map fun (g, used) =>
          ([g], used)
      | none => (readShort specs next cs).map fun (gs, used) => (⟨spec, none⟩ :: gs, used)

/-- The options of one argument. -/
def readOption (specs : List OptionSpec) (arg : Text) (next : Option Text) :
    Scan (List GivenOption × Bool) :=
  let (form, attached) := match arg.findIdx? (· == '=') with
    | some i => (arg.take i, some (arg.drop (i + 1)))
    | none => (arg, none)
  match specs.find? (·.longForms.contains form) with
  | some spec =>
    match spec.takes, attached with
    | some _, _ => (takeValue spec form attached next).map fun (g, used) => ([g], used)
    | none, some _ => .error (.takesNoValue form)
    | none, none => .ok ([⟨spec, none⟩], false)
  | none =>
    if "--".toList.isPrefixOf arg then
      .error (.noSuchOption form (closeTo form (specs.flatMap (·.longForms))))
    else readShort specs next (arg.drop 1)

def isOption (arg : Text) : Bool := arg.head? == some '-' && 1 < arg.length

/-- Reads options up to the first argument that is none, or among all arguments. Two hyphens end
them. -/
def scan (specs : List OptionSpec) (mixed : Bool) (args : List Text) : Scan Scanned :=
  match args with
  | [] => .ok {}
  | arg :: rest =>
    if arg = "--".toList then .ok ⟨[], rest⟩
    else if isOption arg then
      match readOption specs arg rest.head? with
      | .error e => .error e
      | .ok (given, used) =>
        (scan specs mixed (if used then rest.tail else rest)).map fun s =>
          { s with options := given ++ s.options }
    else if mixed then
      (scan specs mixed rest).map fun s => { s with arguments := arg :: s.arguments }
    else .ok ⟨[], arg :: rest⟩
termination_by args.length
decreasing_by
  · split <;> simp only [List.length_cons, List.length_tail] <;> omega
  · simp

namespace Scanned

def has (s : Scanned) (name : OptionName) : Bool := s.options.any (·.spec.name = name)

/-- The last value that was given. -/
def value? (s : Scanned) (name : OptionName) : Option Text :=
  (s.options.reverse.find? (·.spec.name = name)).bind (·.value)

/-- The given options, each once, in the order of first sight. -/
def specs (s : Scanned) : List OptionSpec := (s.options.map (·.spec)).eraseDups

end Scanned

/-- The value of a digit of any script. -/
def digitValue (c : Char) : Nat :=
  if c.toNat < 128 then c.toNat - 48
  else match decimalRanges.find? fun (lo, hi) => lo ≤ c.toNat && c.toNat ≤ hi with
    | some (lo, _) => (c.toNat - lo) % 10
    | none => 0

/-- A whole number with a sign, blanks around it and single underscores between digits. -/
def wholeOfText? (t : Text) : Option Int := do
  let t := trim t
  let (negative, digits) := match t with
    | '-' :: r => (true, r)
    | '+' :: r => (false, r)
    | _ => (false, t)
  if digits.head? = some '_' ∨ digits.getLast? = some '_' ∨ Text.contains digits "__" then none
  else
    let digits := digits.filter (· != '_')
    if digits = [] ∨ !digits.all isDecimal then none
    else
      let n : Int := digits.foldl (fun n c => n * 10 + digitValue c) (0 : Nat)
      some (if negative then -n else n)

/-- What is wrong with a value. -/
def ValueKind.fault? (tree : FileTree) (given : Text) : ValueKind → Option ValueFault
  | .text => none
  | .positive =>
    match wholeOfText? given with
    | none => some (.notNumber given)
    | some n => if n < 1 then some (.tooSmall n) else none
  | .choice names => if names.contains given then none else some (.notChoice given names)
  | .file => if given ≠ [] ∧ tree.isDir (.ofText given) then some (.isDirectory given) else none
  | .directory => if given ≠ [] ∧ tree.isFile (.ofText given) then some (.isFile given) else none

/-- The first given option with a value that is refused. -/
def Scanned.fault? (tree : FileTree) (s : Scanned) : Option UsageFault :=
  s.specs.findSome? fun spec => do
    let kind ← spec.takes
    let fault ← kind.fault? tree (← s.value? spec.name)
    some (.invalidValue spec.hint fault)

end TagLint.Command
