import TagLint.Json.Printer

/-! Log messages: which are let through, and the line of each. -/
namespace TagLint
open Text

inductive LogLevel where
  | debug
  | info
  | warning
  | error
  | critical
deriving DecidableEq, Repr

namespace LogLevel

def name : LogLevel → Text
  | debug => "debug"
  | info => "info"
  | warning => "warning"
  | error => "error"
  | critical => "critical"

def rank : LogLevel → Nat
  | debug => 10
  | info => 20
  | warning => 30
  | error => 40
  | critical => 50

def ofName? (t : Text) : Option LogLevel :=
  [debug, info, warning, error, critical].find? (·.name = t)

end LogLevel

structure LogEvent where
  logger : Text
  level : LogLevel
  event : Text
  fields : List (Text × Json) := []
deriving Repr

namespace LogEvent

def ownLogger : Text := "gormlint"

def isOwn (logger : Text) : Bool := logger == ownLogger || (ownLogger ++ ['.']).isPrefixOf logger

/-- The least level that a logger lets through. -/
def threshold (verbose : Bool) (logger : Text) : LogLevel :=
  if verbose && isOwn logger then .debug else .warning

def passes (verbose : Bool) (e : LogEvent) : Bool :=
  (threshold verbose e.logger).rank ≤ e.level.rank

/-- The logger without a name is the root of all. -/
def loggerName (e : LogEvent) : Text := if e.logger = [] then "root" else e.logger

def toJson (e : LogEvent) : Json :=
  .dict (e.fields ++ [("event".toList, .text e.event), ("level".toList, .text e.level.name),
    ("logger".toList, .text e.loggerName)])

def padded (width : Nat) (t : Text) : Text := t ++ List.replicate (width - t.length) ' '

/-- Words stand bare, other values as messages show them. -/
def fieldText (v : Json) : Text :=
  match v with
  | .text t => if t.any fun c => " \t=\r\n\"'".toList.contains c then quoted t else t
  | v => v.shown

def insertSorted (field : Text × Json) : List (Text × Json) → List (Text × Json)
  | [] => [field]
  | f :: fs => if field.1 < f.1 then field :: f :: fs else f :: insertSorted field fs

def sortedFields (fields : List (Text × Json)) : List (Text × Json) := fields.foldr insertSorted []

/-- The line of an event, without the time. -/
def line (e : LogEvent) : Text :=
  let fields := (sortedFields e.fields).map fun (k, v) => k ++ ['='] ++ fieldText v
  trimRight ("[" ++ padded 9 e.level.name ++ "] " ++ padded 30 e.event ++ " [" ++ e.loggerName
    ++ "] "
    ++ join " " fields)

end LogEvent
end TagLint
