import TagLint.Json.Basic

/-! Telemetry: a tree of named spans with counts and notes. -/
namespace TagLint

structure Span where
  name : Text
  counts : List (Text × Int) := []
  annotations : List (Text × Json) := []
  children : List Span := []
deriving Repr, Inhabited

namespace Span

/-- Adds to a count; a new one goes to the end. -/
def addCount (counts : List (Text × Int)) (key : Text) (n : Int) : List (Text × Int) :=
  match counts with
  | [] => [(key, n)]
  | (k, m) :: rest => if k = key then (k, m + n) :: rest else (k, m) :: addCount rest key n

def addCounts (counts more : List (Text × Int)) : List (Text × Int) :=
  more.foldl (fun cs (k, n) => addCount cs k n) counts

def count (s : Span) (key : Text) (n : Int) : Span := { s with counts := addCount s.counts key n }

def annotate (s : Span) (key : Text) (value : Json) : Span :=
  { s with annotations := Json.put key value s.annotations }

mutual

/-- The counts of a span and all spans below it. -/
def totals : Span → List (Text × Int)
  | ⟨_, counts, _, children⟩ => addCounts counts (totalsOf children)

def totalsOf : List Span → List (Text × Int)
  | [] => []
  | s :: rest => totals s ++ totalsOf rest

end

def countsJson (counts : List (Text × Int)) : Json := .dict (counts.map fun (k, n) => (k, .int n))

def zeroDuration : Json := .decimal ⟨false, 0, -1⟩

mutual

/-- The document of a span; empty parts are left out, and totals go with children. The clock stands
still, so every duration is zero. -/
def toJson : Span → Json
  | ⟨name, counts, annotations, children⟩ =>
    .dict ([("name".toList, .text name), ("duration_ms".toList, zeroDuration)]
      ++ (if counts = [] then [] else [("counts".toList, countsJson counts)])
      ++ (if annotations.isEmpty then [] else [("annotations".toList, .dict annotations)])
      ++ if children.isEmpty then []
        else [("children".toList, .list (toJsons children)),
          ("totals".toList, countsJson (addCounts counts (totalsOf children)))])

def toJsons : List Span → List Json
  | [] => []
  | s :: rest => toJson s :: toJsons rest

end

end Span
end TagLint
