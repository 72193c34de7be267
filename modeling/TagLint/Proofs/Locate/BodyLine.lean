import TagLint.Proofs.Locate.Header
import TagLint.Proofs.Struct.PlainLine
import TagLint.Proofs.Struct.SourceBody
import TagLint.Proofs.Text.Words

/-! The printed lines of a body as the search for a field meets them. -/
namespace TagLint
open Text

namespace Source

variable {d : Decl} {e : Ending} {i : Indent} {l : Line} {w : Text} {c : Char}
  {first : Word} {more : List Word} {pad : Indent} {type : TypeName}

/-- A line with its indent. -/
def lineText (p : Indent × Line) : Text := p.1.text ++ p.2.text

theorem trim_decl (i : Indent) (d : Decl) (e : Ending) :
    trim (lineText (i, .decl d e)) = d.text ++ e.trimmed.text :=
  trim_line i d.solid e

theorem trim_comment (i : Indent) (note : Note) :
    trim (lineText (i, .comment note)) = "//".toList ++ trimRight note.text :=
  trim_append i.isBlank (by decide) (by decide) (by decide) note.text

/-- What follows a declaration does not go on with its last word. -/
theorem Ending.head?_text (e : Ending) : ∀ c ∈ e.text.head?, isWord c = false := by
  have hnote : ∀ note, ∀ c ∈ (noteText note).head?, isWord c = false := by
    intro note
    cases note with
    | none => simp [noteText]
    | some n => simp [noteText]; decide
  cases e with
  | bare note h => exact hnote note
  | tagged pad tag note =>
    intro c hc
    rw [text, List.append_assoc] at hc
    cases hpad : pad.text with
    | nil =>
      obtain rfl : backtick = c := by simpa [hpad] using hc
      decide
    | cons b pads =>
      obtain rfl : b = c := by simpa [hpad] using hc
      exact isWord_eq_false_of_isBlank (pad.isBlank b (by simp [hpad]))

theorem text_named (first : Word) (more : List Word) (pad : Indent) (type : TypeName) :
    ∃ c r, (Decl.named first more pad type).text = first.text ++ c :: r ∧ isWord c = false := by
  cases more with
  | nil =>
    refine ⟨' ', pad.text ++ type.text, ?_, by decide⟩
    simp [Decl.text, Decl.names, join]
  | cons w more =>
    refine ⟨',',
      ' ' :: (join ", ".toList ((w :: more).map Word.text) ++ ' ' :: pad.text ++ type.text), ?_,
      by decide⟩
    simp [Decl.text, Decl.names, join_cons_cons]

/-- A word starts the line of some names where it starts the first of them. -/
theorem prefix_trim_named_iff (hw : ∀ c ∈ w, isWord c) (i : Indent) (e : Ending) :
    w <+: trim (lineText (i, .decl (.named first more pad type) e)) ↔ w <+: first.text := by
  obtain ⟨c, r, htext, hc⟩ := text_named first more pad type
  rw [trim_decl, htext, List.append_assoc, List.cons_append]
  refine prefix_append_cons_iff fun hm => ?_
  exact Bool.false_ne_true (hc.symm.trans (hw c hm))

/-- A word starts a line only where it starts the name of a field of that line. -/
theorem exists_field_of_prefix (hne : w ≠ []) (hw : ∀ c ∈ w, isWord c)
    (h : w <+: trim (lineText (i, l))) :
    ∃ f ∈ l.fields, w <+: f.name := by
  obtain ⟨c, v, rfl⟩ := List.exists_cons_of_ne_nil hne
  have hc : isWord c := hw c List.mem_cons_self
  cases l with
  | blank =>
    have hblank : trim (lineText (i, .blank)) = [] := by
      rw [lineText, Line.text, List.append_nil, trim_blank]
    rw [hblank] at h
    exact absurd (List.prefix_nil.mp h) hne
  | comment note =>
    rw [trim_comment] at h
    obtain ⟨r, hr⟩ := h
    obtain ⟨rfl, -⟩ := List.cons.inj hr
    exact absurd hc (by decide)
  | decl d e =>
    cases d with
    | named first more pad type =>
      exact ⟨_, List.mem_cons_self, (prefix_trim_named_iff hw i e).mp h⟩
    | embedded pointer path =>
      refine ⟨_, List.mem_cons_self, ?_⟩
      rw [trim_decl, Decl.text] at h
      have hend := e.trimmed.head?_text
      cases htext : e.trimmed.text with
      | nil => rwa [htext, List.append_nil] at h
      | cons b r =>
        rw [htext] at h hend
        refine (prefix_append_cons_iff fun hm => ?_).mp h
        exact Bool.false_ne_true ((hend b rfl).symm.trans (hw b hm))

theorem delta_lineText (p : Indent × Line) : Brace.delta (lineText p) = 0 := by
  obtain ⟨i, l⟩ := p
  rw [← Brace.delta_trim]
  cases l with
  | blank => rw [lineText, Line.text, List.append_nil, trim_blank, Brace.delta_nil]
  | comment note => rw [trim_comment]; exact Brace.delta_comment _
  | decl d e => rw [trim_decl, delta_decl]

theorem trim_lineText_ne (p : Indent × Line) : trim (lineText p) ≠ ['}'] := by
  intro h
  have hdelta := delta_lineText p
  have hclose : Brace.delta ['}'] = -1 := delta_closer .empty
  rw [← Brace.delta_trim, h, hclose] at hdelta
  exact absurd hdelta (by decide)

end Source

namespace Locate
open Source

variable {p w : Text} {l : Text} {xs : List (Indent × Line)} {x : Indent × Line} {number : Nat}
  {b : BodyLine}

/-- A direct line in front is the first one that is searched. -/
theorem fieldLine?_cons (hb : b.depth = 1) (field : Text) (body : List BodyLine) :
    fieldLine? field (b :: body) = if field <+: trim b.segment then some b
      else fieldLine? field body := by
  have horder : searchOrder (b :: body) = b :: searchOrder body := by
    simp [searchOrder, hb]
  rw [fieldLine?, horder, List.find?_cons]
  by_cases h : field <+: trim b.segment
  · rw [if_pos h, List.isPrefixOf_iff_prefix.mpr h]
  · have hfalse : field.isPrefixOf (trim b.segment) = false := by
      rw [← Bool.not_eq_true, List.isPrefixOf_iff_prefix]
      exact h
    rw [if_neg h, hfalse, fieldLine?]

/-- The body behind a header that ends in its brace. -/
theorem bodyLines_header (hp : '{' ∉ p) (number : Nat) (rest : List Text) :
    bodyLines number ((p ++ ['{']) :: rest)
      = ⟨number, p.length + 1, [], 1⟩ :: bodyLinesFrom (number + 1) 1 rest := by
  have hdrop : (p ++ ['{']).drop (p.length + 1) = [] := by simp
  rw [bodyLines, findIdx?_append_cons hp]
  simp only [hdrop, Brace.delta_nil, Int.add_zero]

/-- A line belongs to the body of its struct, and the next line stands as deep. -/
theorem bodyLinesFrom_line (x : Indent × Line) (number : Nat) (rest : List Text) :
    bodyLinesFrom number 1 (lineText x :: rest)
      = ⟨number, 0, lineText x, 1⟩ :: bodyLinesFrom (number + 1) 1 rest := by
  rw [bodyLinesFrom, if_neg (by simp [trim_lineText_ne]), delta_lineText]
  rfl

/-- The first line that a name starts is found. -/
theorem fieldLine?_lines (hxs : ∀ y ∈ xs, ¬ w <+: trim (lineText y)) (hx : w <+: trim (lineText x))
    (number : Nat) (rest : List Text) :
    fieldLine? w (bodyLinesFrom number 1 (xs.map lineText ++ lineText x :: rest))
      = some ⟨number + xs.length, 0, lineText x, 1⟩ := by
  induction xs generalizing number with
  | nil =>
    rw [List.map_nil, List.nil_append, bodyLinesFrom_line, fieldLine?_cons rfl, if_pos hx]
    rfl
  | cons y xs ih =>
    obtain ⟨hy, hxs⟩ := List.forall_mem_cons.mp hxs
    rw [List.map_cons, List.cons_append, bodyLinesFrom_line, fieldLine?_cons rfl, if_neg hy, ih hxs]
    rw [List.length_cons, Nat.add_assoc, Nat.add_comm 1]

end Locate
end TagLint
