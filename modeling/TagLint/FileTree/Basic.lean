import TagLint.FileTree.Path
import TagLint.Text.Decode

/-! A tree of files and directories as a value, with a working directory. -/
namespace TagLint
open Text

inductive Node where
  | file (bytes : List UInt8)
  | dir
  | link (target : Text)
deriving DecidableEq, Repr, Inhabited

inductive FileError where
  | notFound
  | notDirectory
  | isDirectory
  | tooManyLinks
deriving DecidableEq, Repr

def FileError.text : FileError → Text
  | notFound => "[Errno 2] No such file or directory"
  | notDirectory => "[Errno 20] Not a directory"
  | isDirectory => "[Errno 21] Is a directory"
  | tooManyLinks => "[Errno 40] Too many levels of symbolic links"

/-- Entries are named by their components from the root. Directories above an entry are there
too. -/
structure FileTree where
  entries : List (List Text × Node) := []
  cwd : List Text := []
deriving Repr, Inhabited

namespace FileTree

def lookup? (t : FileTree) (parts : List Text) : Option Node :=
  match t.entries.find? (·.1 = parts) with
  | some (_, node) => some node
  | none => if parts = [] ∨ t.entries.any (fun e => parts.isPrefixOf e.1) then some .dir else none

def maxLinks : Nat := 40

/-- Where a link's target starts. -/
def linkBase (here : List Text) (target : Text) : List Text :=
  if target.head? = some '/' then [] else here

/-- Follows components and links to a file or directory. -/
def follow (t : FileTree) (links : Nat) (here rest : List Text) :
    Except FileError (List Text × Node) :=
  match rest with
  | [] =>
    match t.lookup? here with
    | some node => .ok (here, node)
    | none => .error .notFound
  | name :: rest =>
    if name = "..".toList then follow t links here.dropLast rest
    else match t.lookup? (here ++ [name]) with
      | none => .error .notFound
      | some .dir => follow t links (here ++ [name]) rest
      | some (.file bytes) =>
        if rest = [] then .ok (here ++ [name], .file bytes) else .error .notDirectory
      | some (.link target) =>
        match links with
        | 0 => .error .tooManyLinks
        | links + 1 => follow t links (linkBase here target) (Path.components target ++ rest)
termination_by (links, rest.length)

theorem mem_of_lookup?_link {t : FileTree} {parts : List Text} {target : Text}
    (h : t.lookup? parts = some (.link target)) : (parts, .link target) ∈ t.entries := by
  rw [lookup?] at h
  split at h
  · rename_i named node hfind
    obtain rfl := Option.some.inj h
    obtain rfl : named = parts := by simpa using List.find?_some hfind
    exact List.mem_of_find?_eq_some hfind
  · split at h <;> simp at h

/-- The entries that are not among those opened. -/
def closedEntries (t : FileTree) (opened : List (List Text)) : Nat :=
  t.entries.countP fun e => !opened.contains e.1

theorem closedEntries_lt {t : FileTree} {opened : List (List Text)} {parts : List Text}
    {target : Text} (h : t.lookup? parts = some (.link target)) (hopened : parts ∉ opened) :
    t.closedEntries (parts :: opened) < t.closedEntries opened := by
  have hle (es : List (List Text × Node)) :
      es.countP (fun e => !(parts :: opened).contains e.1) ≤ es.countP fun e =>
        !opened.contains e.1 := by
    apply List.countP_mono_left
    simp
  obtain ⟨before, after, hentries⟩ := List.append_of_mem (mem_of_lookup?_link h)
  rw [closedEntries, closedEntries, hentries, List.countP_append, List.countP_append,
    List.countP_cons_of_neg (by simp), List.countP_cons_of_pos (by simpa using hopened)]
  have := hle before
  have := hle after
  omega

/-- The components from the root with links replaced; what is missing is kept as it is. There is no
limit to the links on the way, but a link that its own target leads to is kept as well. -/
def realFrom (t : FileTree) (opened : List (List Text)) (here rest : List Text) : List Text :=
  match rest with
  | [] => here
  | name :: rest =>
    if name = "..".toList then realFrom t opened here.dropLast rest
    else match _h : t.lookup? (here ++ [name]) with
      | some (.link target) =>
        if _hopened : opened.contains (here ++ [name]) then realFrom t opened (here ++ [name]) rest
        else
          let real :=
            realFrom t ((here ++ [name]) :: opened) (linkBase here target) (Path.components target)
          realFrom t opened real rest
      | _ => realFrom t opened (here ++ [name]) rest
termination_by (t.closedEntries opened, rest.length)
decreasing_by
  · exact .right _ (Nat.lt_succ_self _)
  · exact .right _ (Nat.lt_succ_self _)
  · exact .left _ _ (closedEntries_lt _h (by simpa using _hopened))
  · exact .right _ (Nat.lt_succ_self _)
  · exact .right _ (Nat.lt_succ_self _)

def base (t : FileTree) (p : Path) : List Text := if p.isAbsolute then [] else t.cwd

def stat (t : FileTree) (p : Path) : Except FileError (List Text × Node) :=
  t.follow maxLinks (t.base p) p.parts

def resolve (t : FileTree) (p : Path) : List Text := t.realFrom [] (t.base p) p.parts

def isFile (t : FileTree) (p : Path) : Bool :=
  match t.stat p with
  | .ok (_, .file _) => true
  | _ => false

def isDir (t : FileTree) (p : Path) : Bool :=
  match t.stat p with
  | .ok (_, .dir) => true
  | _ => false

/-- The names in a directory, with what stands under them, links not followed. -/
def children (t : FileTree) (dir : List Text) : List (Text × Node) :=
  let names := t.entries.filterMap fun (parts, _) =>
    if dir.isPrefixOf parts then (parts.drop dir.length).head? else none
  names.eraseDups.filterMap fun name => (t.lookup? (dir ++ [name])).map fun node => (name, node)

inductive ReadError where
  | file (e : FileError) (path : Text)
  | decode (e : DecodeError)
deriving DecidableEq, Repr

def ReadError.message : ReadError → Text
  | .file e path => e.text ++ ": " ++ quoted path
  | .decode e => e.message

/-- The text of a file, under the name by which messages know it. -/
def read (t : FileTree) (p : Path) (shown : Text) : Except ReadError Text :=
  match t.stat p with
  | .error e => .error (.file e shown)
  | .ok (_, .file bytes) =>
    match decode bytes with
    | .ok text => .ok (unifyNewlines text)
    | .error e => .error (.decode e)
  | .ok _ => .error (.file .isDirectory shown)

/-- Opens a path as it was typed: an empty one is nowhere, and a final slash asks for a
directory. -/
def readTyped (t : FileTree) (typed : Text) : Except ReadError Text :=
  let p := Path.ofText typed
  if typed = [] then .error (.file .notFound typed)
  else if typed.getLast? = some '/' ∧ t.isFile p then .error (.file .notDirectory typed)
  else t.read p typed

/-- Texts in the order of their characters. -/
def sorted (names : List Text) : List Text := names.mergeSort fun a b => !decide (b < a)

end FileTree
end TagLint
