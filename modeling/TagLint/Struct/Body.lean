import TagLint.Struct.FieldLine

/-! The lines of a struct body, with nested anonymous structs flattened into it. -/
namespace TagLint.Body
open Text

/-- The name before a line that opens a nested anonymous struct. -/
def opener? (line : Text) : Option Text := do
  let name := line.takeWhile isWord
  let kind := match ← afterBlanks? (line.dropWhile isWord) with
    | '[' :: ']' :: '*' :: r => r
    | '[' :: ']' :: r => r
    | '*' :: r => r
    | r => r
  match trimLeft (← after? "struct" kind) with
  | '{' :: r => if name ≠ [] ∧ allBlank r then some name else none
  | _ => none

/-- The tag of a line that starts with a closing brace, empty when it has none. -/
def closer? : Text → Option Text
  | '}' :: rest => some ((FieldLine.tag? rest).getD [])
  | _ => none

/-- Splits the lines after an opener into those of the group, and the closing line with what
follows it. -/
def group (depth : Int) : List Text → List Text × Option (Text × List Text)
  | [] => ([], none)
  | line :: lines =>
    let depth := depth + Brace.delta line
    if 0 < depth then
      let (inner, closing) := group depth lines
      (line :: inner, closing)
    else ([], some (line, lines))

theorem group_fst_length (depth : Int) (lines : List Text) :
    (group depth lines).1.length ≤ lines.length := by
  induction lines generalizing depth with
  | nil => simp [group]
  | cons l ls ih =>
    simp only [group]
    split
    · simpa using ih _
    · simp

theorem group_snd_length {depth : Int} {lines : List Text} {closing : Text} {rest : List Text}
    (h : (group depth lines).2 = some (closing, rest)) : rest.length < lines.length := by
  induction lines generalizing depth with
  | nil => simp [group] at h
  | cons l ls ih =>
    simp only [group] at h
    split at h
    · have := ih h
      simp only [List.length_cons]
      omega
    · simp only [Option.some.injEq, Prod.mk.injEq] at h
      simp [h.2]

/-- A nested struct gives its own fields first, then the field that holds it, with the tag that
stands on its closing line. -/
def fieldsOfLines (lines : List Text) : List FieldDecl :=
  match lines with
  | [] => []
  | line :: rest =>
    match opener? line with
    | none => FieldLine.fields line ++ fieldsOfLines rest
    | some name =>
      let inner := fieldsOfLines (group 1 rest).1
      match _h : (group 1 rest).2 with
      | none => inner
      | some (closing, after) =>
        let holder := (closer? closing).toList.map fun tag => (⟨name, "struct", tag⟩ : FieldDecl)
        inner ++ holder ++ fieldsOfLines after
termination_by lines.length
decreasing_by
  · simp
  · have := group_fst_length 1 rest
    simp only [List.length_cons]
    omega
  · have := group_snd_length _h
    simp only [List.length_cons]
    omega

/-- Blank lines and comment lines say nothing. -/
def isContent (line : Text) : Bool := !line.isEmpty && !("//".toList.isPrefixOf line)

/-- The fields of a struct body. -/
def fields (body : Text) : List FieldDecl :=
  fieldsOfLines (((lines body).map trim).filter isContent)

end TagLint.Body
