import TagLint.Toml.Lexeme

/-! A whole settings file: tables, and which of them may still grow. -/
namespace TagLint.Toml
open Text

abbrev Table := List (Text × Json)

/-- Changes the table behind a key, which is made where it is missing. With `lists`, a list stands
for its last table. -/
def atTable (lists : Bool) (change : Table → Option Table) : List Text → Table → Option Table
  | [], table => change table
  | k :: ks, table =>
    match Json.lookup? k table with
    | none => (atTable lists change ks []).map fun sub => Json.put k (.dict sub) table
    | some (.dict sub) => (atTable lists change ks sub).map fun sub => Json.put k (.dict sub) table
    | some (.list items) =>
      match items.getLast? with
      | some (.dict sub) =>
        if lists then
          (atTable lists change ks sub).map fun sub =>
            Json.put k (.list (items.dropLast ++ [.dict sub])) table
        else none
      | _ => none
    | some _ => none

/-- A value goes only where there is none. -/
def putNew (k : Text) (v : Json) (table : Table) : Option Table :=
  if (Json.lookup? k table).isSome then none else some (table ++ [(k, v)])

def setKey (lists : Bool) (key : List Text) (v : Json) (table : Table) : Option Table :=
  match key.getLast? with
  | some k => atTable lists (putNew k v) key.dropLast table
  | none => none

/-- Adds an empty table to the list behind a key. -/
def appendTable (key : List Text) (table : Table) : Option Table :=
  match key.getLast? with
  | none => none
  | some k =>
    atTable true (fun t =>
      match Json.lookup? k t with
      | none => some (t ++ [(k, .list [.dict []])])
      | some (.list items) => some (Json.put k (.list (items ++ [.dict []])) t)
      | some _ => none) key.dropLast table

/-- What holds for the table behind a key: it was declared, or it and all below it are closed. -/
structure Marks where
  declared : List (List Text) := []
  closed : List (List Text) := []

namespace Marks

def isClosed (m : Marks) (key : List Text) : Bool := m.closed.any (·.isPrefixOf key) && key != []

def isDeclared (m : Marks) (key : List Text) : Bool := m.declared.contains key

def declare (m : Marks) (key : List Text) : Marks := { m with declared := key :: m.declared }

def close (m : Marks) (key : List Text) : Marks := { m with closed := key :: m.closed }

def forget (m : Marks) (key : List Text) : Marks :=
  ⟨m.declared.filter fun k => !key.isPrefixOf k, m.closed.filter fun k => !key.isPrefixOf k⟩

end Marks

def isCollection : Json → Bool
  | .dict _ => true
  | .list _ => true
  | _ => false

mutual

def value? : Nat → Text → Option (Json × Text)
  | 0, _ => none
  | fuel + 1, cs =>
    match cs with
    | '"' :: '"' :: '"' :: r => (basicLines? r).map fun (t, r) => (.text t, r)
    | '"' :: r => (basicLine? r).map fun (t, r) => (.text t, r)
    | '\'' :: '\'' :: '\'' :: r => (literalLines? r).map fun (t, r) => (.text t, r)
    | '\'' :: r => (literalLine? r).map fun (t, r) => (.text t, r)
    | '[' :: r => do
      let r ← skipLines? (r.length + 1) r
      match r with
      | ']' :: r => some (.list [], r)
      | _ => (items? fuel r).map fun (vs, r) => (.list vs, r)
    | '{' :: r =>
      match skipGap r with
      | '}' :: r => some (.dict [], r)
      | r => (pairs? fuel [] {} r).map fun (t, r) => (.dict t, r)
    | _ => atom? cs

def items? : Nat → Text → Option (List Json × Text)
  | 0, _ => none
  | fuel + 1, cs => do
    let (v, r) ← value? fuel cs
    match ← skipLines? (r.length + 1) r with
    | ']' :: r => some ([v], r)
    | ',' :: r =>
      match ← skipLines? (r.length + 1) r with
      | ']' :: r => some ([v], r)
      | r => (items? fuel r).map fun (vs, r) => (v :: vs, r)
    | _ => none

/-- The pairs of an inline table. -/
def pairs? : Nat → Table → Marks → Text → Option (Table × Text)
  | 0, _, _, _ => none
  | fuel + 1, table, marks, cs => do
    let (key, v, r) ← pair? fuel cs
    if marks.isClosed key then none
    else
      let table ← setKey false key v table
      match skipGap r with
      | '}' :: r => some (table, r)
      | ',' :: r =>
        pairs? fuel table (if isCollection v then marks.close key else marks) (skipGap r)
      | _ => none

def pair? : Nat → Text → Option (List Text × Json × Text)
  | 0, _ => none
  | fuel + 1, cs => do
    let (key, r) ← key? (cs.length + 1) cs
    let r ← exactly? '=' (skipGap r)
    let (v, r) ← value? fuel (skipGap r)
    some (key, v, r)

end

/-- The state of reading: the document, its marks, the keys that become declared with the next
header, and the current header. -/
structure Reading where
  table : Table := []
  marks : Marks := {}
  pending : List (List Text) := []
  header : List Text := []

namespace Reading

def settle (s : Reading) : Reading :=
  { s with marks := s.pending.foldl Marks.declare s.marks, pending := [] }

/-- A key with a value under the current header. -/
def assign? (s : Reading) (key : List Text) (v : Json) : Option Reading :=
  let full := s.header ++ key
  let between := (List.range (key.length - 1)).map fun i => s.header ++ key.take (i + 1)
  if between.any s.marks.isDeclared ∨ s.marks.isClosed full.dropLast then none
  else
    (setKey true full v s.table).map fun table =>
      { s with
        table
        pending := s.pending ++ between
        marks := if isCollection v then s.marks.close full else s.marks }

def openTable? (s : Reading) (key : List Text) : Option Reading :=
  let s := s.settle
  if s.marks.isDeclared key ∨ s.marks.isClosed key then none
  else
    (atTable true some key s.table).map fun table =>
      { s with table, marks := s.marks.declare key, header := key }

def openList? (s : Reading) (key : List Text) : Option Reading :=
  let s := s.settle
  if s.marks.isClosed key then none
  else
    (appendTable key s.table).map fun table =>
      { s with table, marks := (s.marks.forget key).declare key, header := key }

/-- One statement at the start of a line. -/
def statement? (s : Reading) (cs : Text) : Option (Reading × Text) :=
  match cs with
  | '[' :: '[' :: r => do
    let (key, r) ← key? (r.length + 1) (skipGap r)
    let s ← s.openList? key
    some (s, ← exactly? ']' (← exactly? ']' r))
  | '[' :: r => do
    let (key, r) ← key? (r.length + 1) (skipGap r)
    let s ← s.openTable? key
    some (s, ← exactly? ']' r)
  | '#' :: _ => some (s, cs)
  | _ => do
    let (key, v, r) ← pair? (cs.length + 2) cs
    some (← s.assign? key v, r)

def lines? : Nat → Reading → Text → Option Reading
  | 0, _, _ => none
  | fuel + 1, s, cs =>
    match skipGap cs with
    | [] => some s
    | '\n' :: r => lines? fuel s r
    | r => do
      let (s, r) ← s.statement? r
      match ← skipComment? (skipGap r) with
      | [] => some s
      | '\n' :: r => lines? fuel s r
      | _ => none

end Reading

/-- The top table of a file; `none` when it is not well formed. -/
def parse? (t : Text) : Option Table := (Reading.lines? (t.length + 1) {} t).map (·.table)

end TagLint.Toml
