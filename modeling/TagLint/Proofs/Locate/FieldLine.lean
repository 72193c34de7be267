import TagLint.Proofs.Locate.BodyLine
import TagLint.Proofs.Locate.FirstHeader

/-! The line that a field of a flat struct is located at. -/
namespace TagLint.Locate
open Text Source

variable {w : Text} {d : FlatDocument} {st : FlatStruct} {f : FlatField} {fs fs' : List FlatField}
  {n : Nat}

/-- The line as one of a body. -/
def printedLine (f : FlatField) : Indent × Line := (f.indent, .decl f.decl f.ending)

theorem lineText_printedLine (f : FlatField) : lineText (printedLine f) = f.line := rfl

theorem map_printedLine (fs : List FlatField) :
    (fs.map printedLine).map lineText = fs.map FlatField.line := by
  rw [List.map_map]
  rfl

/-- A word starts the line of a field where it starts the name. -/
theorem prefix_trim_line_iff (hw : ∀ c ∈ w, isWord c) (f : FlatField) :
    w <+: trim (lineText (printedLine f)) ↔ w <+: f.name.text :=
  prefix_trim_named_iff hw f.indent f.ending

theorem fieldLine?_fields (hfs : ∀ g ∈ fs, ¬ f.name.text <+: g.name.text) (number : Nat)
    (rest : List Text) :
    fieldLine? f.name.text (bodyLinesFrom number 1 (fs.map FlatField.line ++ f.line :: rest))
      = some ⟨number + fs.length, 0, f.line, 1⟩ := by
  have habove : ∀ y ∈ fs.map printedLine, ¬ f.name.text <+: trim (lineText y) := by
    intro y hy
    obtain ⟨g, hg, rfl⟩ := List.mem_map.mp hy
    rw [prefix_trim_line_iff f.name.isWord]
    exact hfs g hg
  have hfound :=
    fieldLine?_lines habove ((prefix_trim_line_iff f.name.isWord f).mpr List.prefix_rfl) number rest
  rwa [map_printedLine, lineText_printedLine, List.length_map] at hfound

/-- The line of a field is the one that is found: its name starts no line above it. -/
theorem HeaderOn.fieldLine? (h : HeaderOn d st n) (hst : st.fields = fs ++ f :: fs') :
    fieldLine? f.name.text (bodyLines n ((lines d.text).drop n))
      = some ⟨n + 1 + fs.length, 0, f.line, 1⟩
      ∧ (lines d.text)[n + 1 + fs.length]? = some f.line := by
  obtain ⟨-, p, more, hbelow, hp⟩ := h
  have hfs : ∀ g ∈ fs, ¬ f.name.text <+: g.name.text := by
    have hapart := st.apart
    rw [hst, List.pairwise_append] at hapart
    exact fun g hg => hapart.2.2 g hg f List.mem_cons_self
  have hempty : ¬ f.name.text <+: trim [] := fun hin => f.name.ne_nil (List.prefix_nil.mp hin)
  rw [hst, List.map_append, List.map_cons] at hbelow
  constructor
  · rw [hbelow, bodyLines_header hp, fieldLine?_cons rfl, if_neg hempty, List.append_assoc]
    exact fieldLine?_fields hfs (n + 1) _
  · have hget : ((lines d.text).drop n)[fs.length + 1]? = some f.line := by simp [hbelow]
    rw [List.getElem?_drop] at hget
    rw [← hget]
    congr 1
    omega

end TagLint.Locate
