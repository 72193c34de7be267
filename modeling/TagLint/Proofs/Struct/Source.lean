import TagLint.Proofs.Text.Spans
import TagLint.Struct.Extract

/-! Source documents as they are printed, and the structs that they declare. -/
namespace TagLint.Source
open Text

/-! ## Words -/

/-- Spaces and tabs. -/
structure Indent where
  text : Text := []
  blank : ∀ c ∈ text, c = ' ' ∨ c = '\t' := by decide

structure Word where
  text : Text
  ne_nil : text ≠ [] := by decide
  isWord : ∀ c ∈ text, isWord c := by decide

/-- No prefix closes more braces than it opens, and in the end all are closed. -/
def Balanced (t : Text) : Prop :=
  (∀ n ≤ t.length, (t.take n).count '}' ≤ (t.take n).count '{') ∧ t.count '}' = t.count '{'

instance (t : Text) : Decidable (Balanced t) :=
  inferInstanceAs (Decidable ((∀ n ≤ t.length, _) ∧ _))

structure TypeName where
  text : Text
  ne_nil : text ≠ [] := by decide
  isTypeChar : ∀ c ∈ text, FieldLine.isTypeChar c := by decide
  balanced : Balanced text := by decide

/-- The name of an embedded type, perhaps with its package. -/
structure Dotted where
  text : Text
  ne_nil : text ≠ [] := by decide
  isPathChar : ∀ c ∈ text, FieldLine.isPathChar c := by decide

/-- What stands behind the slashes of a comment. -/
structure Note where
  text : Text
  newline : '\n' ∉ text := by decide

/-- What stands between the backticks of a tag. -/
structure RawTag where
  text : Text
  newline : '\n' ∉ text := by decide
  backtick : backtick ∉ text := by decide

/-! ## Lines -/

/-- What follows a declaration on its line. Without a tag, no backtick may stand in the comment. -/
inductive Ending where
  | bare (note : Option Note) (noBacktick : ∀ n ∈ note, backtick ∉ n.text)
  | tagged (pad : Indent) (tag : RawTag) (note : Option Note)

inductive Decl where
  | named (first : Word) (more : List Word) (pad : Indent) (type : TypeName)
  | embedded (pointer : Bool) (path : Dotted)

inductive Line where
  | blank
  | comment (note : Note)
  | decl (decl : Decl) (ending : Ending)

/-- What stands before the keyword of a nested struct. -/
inductive Shape where
  | plain
  | pointer
  | slice
  | slicePointer

/-- The lines between the braces of a struct; groups are the nested structs. -/
inductive Block where
  | nil
  | line (indent : Indent) (line : Line) (rest : Block)
  | group (indent : Indent) (name : Word) (shape : Shape) (inner : Block)
      (closeIndent : Indent) (ending : Ending) (rest : Block)

structure Struct where
  indent : Indent
  name : Word
  body : Block
  closeIndent : Indent

/-- Text between structs: the keyword of a header does not occur in it, and it ends a line. -/
structure Gap where
  text : Text
  noKeyword : ¬ "type".toList <:+: text
  endsLine : text = [] ∨ text.getLast? = some '\n'

structure Document where
  structs : List (Gap × Struct)
  last : Gap

/-! ## Printing -/

def noteText : Option Note → Text
  | none => []
  | some n => " //".toList ++ n.text

def Ending.text : Ending → Text
  | bare note _ => noteText note
  | tagged pad tag note => pad.text ++ backtick :: tag.text ++ backtick :: noteText note

def Decl.names (first : Word) (more : List Word) : Text :=
  join ", ".toList ((first :: more).map Word.text)

def star (pointer : Bool) : Text := if pointer then ['*'] else []

def Decl.text : Decl → Text
  | named first more pad type => names first more ++ ' ' :: pad.text ++ type.text
  | embedded pointer path => star pointer ++ path.text

def Line.text : Line → Text
  | blank => []
  | comment note => "//".toList ++ note.text
  | decl d ending => d.text ++ ending.text

def Shape.text : Shape → Text
  | plain => []
  | pointer => ['*']
  | slice => ['[', ']']
  | slicePointer => ['[', ']', '*']

def opener (name : Word) (shape : Shape) : Text :=
  name.text ++ ' ' :: shape.text ++ "struct \x7b".toList

def Block.lines : Block → List Text
  | nil => []
  | line indent l rest => (indent.text ++ l.text) :: rest.lines
  | group indent name shape inner closeIndent ending rest =>
    (indent.text ++ opener name shape) :: inner.lines
      ++ (closeIndent.text ++ '}' :: ending.text) :: rest.lines

def unlines (ls : List Text) : Text := ls.flatMap (· ++ ['\n'])

def Struct.header (s : Struct) : Text := "type ".toList ++ s.name.text ++ " struct \x7b".toList

/-- Everything between the braces. -/
def Struct.inside (s : Struct) : Text := '\n' :: unlines s.body.lines ++ s.closeIndent.text

def Struct.text (s : Struct) : Text := s.indent.text ++ s.header ++ s.inside ++ ['}']

def Document.text (d : Document) : Text :=
  (d.structs.flatMap fun (gap, s) => gap.text ++ s.text) ++ d.last.text

example :
    let tab : Indent := { text := ['\t'] }
    let id : Decl := .named { text := "ID".toList } [] {} { text := "uint".toList }
    let tagged : Ending := .tagged { text := [' '] } { text := "id".toList } none
    let home : Word := { text := "Home".toList }
    let body := Block.line tab (.decl id tagged)
      (.group tab home .slice (.line {} .blank .nil) tab (.bare none (by simp)) .nil)
    Struct.text ⟨{}, { text := "User".toList }, body, {}⟩
      = "type User struct \x7b\n\tID uint \x60id\x60\n\tHome []struct \x7b\n\n\t\x7d\n\x7d" := by
  decide

/-! ## Declarations -/

def Ending.tag : Ending → Text
  | bare _ _ => []
  | tagged _ tag _ => tag.text

def Decl.fields (tag : Text) : Decl → List FieldDecl
  | named first more _ type => (first :: more).map fun n => ⟨n.text, type.text, tag⟩
  | embedded pointer path => [⟨star pointer ++ path.text, star pointer ++ path.text, tag⟩]

def Line.fields : Line → List FieldDecl
  | decl d ending => d.fields ending.tag
  | _ => []

/-- The fields of a nested struct come before the field that holds it. -/
def Block.fields : Block → List FieldDecl
  | nil => []
  | line _ l rest => l.fields ++ rest.fields
  | group _ name _ inner _ ending rest =>
    inner.fields ++ ⟨name.text, "struct".toList, ending.tag⟩ :: rest.fields

def Struct.decl (s : Struct) : StructDecl := ⟨s.name.text, s.body.fields⟩

def Document.decls (d : Document) : List StructDecl := d.structs.map fun (_, s) => s.decl

end TagLint.Source
