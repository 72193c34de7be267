import TagLint.Struct.Body

/-! Every struct declaration of a source text, without a grammar. -/
namespace TagLint
open Text

namespace Header

/-- Whether a word may start after this character. -/
def boundary : Option Char → Bool
  | none => true
  | some c => !isWord c

/-- The declared name, and the text after the opening brace. -/
def match? (cs : Text) : Option (Text × Text) := do
  let cs ← afterBlanks? (← after? "type" cs)
  let name := cs.takeWhile isWord
  let cs ← after? "struct" (← afterBlanks? (cs.dropWhile isWord))
  match trimLeft cs with
  | '{' :: rest => if name = [] then none else some (name, rest)
  | _ => none

/-- The first header of a text that stands after `previous`. -/
def search? (previous : Option Char) : Text → Option (Text × Text)
  | [] => none
  | c :: cs =>
    match if boundary previous then match? (c :: cs) else none with
    | some found => some found
    | none => search? (some c) cs

theorem match?_length {cs name rest : Text} (h : match? cs = some (name, rest)) :
    rest.length < cs.length := by
  simp only [match?, Option.bind_eq_bind, Option.bind_eq_some_iff] at h
  obtain ⟨a, ha, b, hb, c, hc, d, hd, h⟩ := h
  have h₁ := after?_length ha
  have h₂ := afterBlanks?_length hb
  have h₃ := afterBlanks?_length hc
  have h₄ := after?_length hd
  have h₅ : (b.dropWhile isWord).length ≤ b.length := (List.dropWhile_sublist isWord).length_le
  have h₆ := trimLeft_length_le d
  split at h
  · rename_i body heq
    rw [heq, List.length_cons] at h₆
    split at h
    · simp at h
    · simp only [Option.some.injEq, Prod.mk.injEq] at h
      rw [← h.2]
      omega
  · simp at h

theorem search?_length {previous : Option Char} {cs name rest : Text}
    (h : search? previous cs = some (name, rest)) : rest.length < cs.length := by
  induction cs generalizing previous with
  | nil => simp [search?] at h
  | cons c cs ih =>
    simp only [search?] at h
    split at h
    · rename_i found hfound
      split at hfound
      · cases h
        exact match?_length hfound
      · simp at hfound
    · have := ih h
      simp only [List.length_cons]
      omega

end Header

/-- The structs of a text that stands after `previous`. A struct that is never closed has no fields,
and the search goes on right after its header. -/
def structsAfter (previous : Option Char) (cs : Text) : List StructDecl :=
  match _h : Header.search? previous cs with
  | none => []
  | some (name, rest) =>
    match Brace.close? rest 0 with
    | none => ⟨name, []⟩ :: structsAfter (some '{') rest
    | some n => ⟨name, Body.fields (rest.take n)⟩ :: structsAfter (some '}') (rest.drop (n + 1))
termination_by cs.length
decreasing_by
  · exact Header.search?_length _h
  · have := Header.search?_length _h
    simp only [List.length_drop]
    omega

/-- The structs of a source text, in order of appearance. -/
def structs (t : Text) : List StructDecl := structsAfter none t

end TagLint
