import TagLint.Proofs.Struct.Sites
import TagLint.Proofs.Struct.SourceBody
import TagLint.Proofs.Struct.SourceBraces

/-! Reading a printed document gives the structs that it declares. -/
namespace TagLint
open Text

variable {previous : Option Char} {cs t : Text} {c : Char}

/-! ## Text between structs -/

theorem Header.here?_of_not_start (h : ¬ "type".toList <+: cs) : here? previous cs = none := by
  rcases here?_cases previous cs with hnone | ⟨name, header, rest, -, hspelled, rfl, -⟩
  · exact hnone
  · cases hspelled
    exact absurd ⟨_, by simp only [List.append_assoc]; rfl⟩ h

namespace Source

theorem not_start_of_endsLine (hcs : ¬ "type".toList <:+: cs) (hend : cs.getLast? = some '\n')
    (t : Text) : ¬ "type".toList <+: cs ++ t := by
  intro h
  rcases List.prefix_or_prefix_of_prefix h (List.prefix_append cs t) with h | h
  · exact hcs h.isInfix
  · have hmem := h.subset (List.mem_of_getLast? hend)
    exact absurd hmem (by decide)

/-- The search goes through lines without the keyword. -/
theorem structsAfter_lines (hcs : ¬ "type".toList <:+: cs) (hend : cs.getLast? = some '\n')
    (t : Text) :
    structsAfter previous (cs ++ t) = structsAfter (some '\n') t := by
  induction cs generalizing previous with
  | nil => simp at hend
  | cons c cs ih =>
    have hstart := not_start_of_endsLine hcs hend t
    rw [List.cons_append] at hstart ⊢
    rw [structsAfter_cons_of_none (Header.here?_of_not_start hstart)]
    cases cs with
    | nil =>
      obtain rfl : c = '\n' := by simpa using hend
      rfl
    | cons d cs =>
      exact ih (fun h => hcs (h.trans (List.suffix_cons c _).isInfix)) (by simpa using hend)

theorem structsAfter_blank (hp : Header.boundary previous) (hcs : ∀ c ∈ cs, isBlank c) (t : Text) :
    ∃ p, Header.boundary p ∧ structsAfter previous (cs ++ t) = structsAfter p t := by
  induction cs generalizing previous with
  | nil => exact ⟨previous, hp, rfl⟩
  | cons c cs ih =>
    obtain ⟨hc, hcs⟩ := List.forall_mem_cons.mp hcs
    have hstart : ¬ "type".toList <+: c :: (cs ++ t) := by
      rintro ⟨r, hr⟩
      obtain ⟨rfl, -⟩ := List.cons.inj hr
      exact absurd hc (by decide)
    have hboundary : Header.boundary (some c) := by
      simp [Header.boundary, isWord_eq_false_of_isBlank hc]
    obtain ⟨p, hp', hrest⟩ := ih hboundary hcs
    refine ⟨p, hp', ?_⟩
    rw [List.cons_append, structsAfter_cons_of_none (Header.here?_of_not_start hstart), hrest]

theorem structsAfter_gap (hp : Header.boundary previous) (g : Gap) (t : Text) :
    ∃ p, Header.boundary p ∧ structsAfter previous (g.text ++ t) = structsAfter p t := by
  rcases g.endsLine with hnil | hend
  · exact ⟨previous, hp, by rw [hnil, List.nil_append]⟩
  · exact ⟨some '\n', by decide, structsAfter_lines g.noKeyword hend t⟩

/-! ## Structs -/

theorem Struct.spelled (s : Struct) : Header.Spelled s.name.text s.header := by
  have htype : "type ".toList = "type".toList ++ [' '] := by decide
  have hstruct : " struct \x7b".toList = [' '] ++ ("struct".toList ++ ([' '] ++ ['{'])) := by decide
  unfold Struct.header
  rw [htype, hstruct, List.append_assoc, List.append_assoc]
  exact .mk s.name.ne_nil s.name.isWord (by decide) (by decide) (by decide) (by decide) (by decide)

/-- A printed struct is read whole, and the reading goes on behind its brace. -/
theorem structsAfter_struct (hp : Header.boundary previous) (s : Struct) (t : Text) :
    structsAfter previous (s.text ++ t) = s.decl :: structsAfter (some '}') t := by
  obtain ⟨p, hp', hindent⟩ :=
    structsAfter_blank hp s.indent.isBlank (s.header ++ (s.inside ++ '}' :: t))
  have htext : s.text ++ t = s.indent.text ++ (s.header ++ (s.inside ++ '}' :: t)) := by
    simp [Struct.text]
  rw [htext, hindent, structsAfter_of_some (Header.here?_of_spelled hp' s.spelled _), structHere,
    close?_inside]
  simp [fields_inside, Struct.decl]

theorem structsAfter_document (hp : Header.boundary previous) (structs : List (Gap × Struct))
    (last : Gap) :
    structsAfter previous (Document.text ⟨structs, last⟩) = Document.decls ⟨structs, last⟩ := by
  induction structs generalizing previous with
  | nil =>
    obtain ⟨p, -, hlast⟩ := structsAfter_gap hp last []
    rw [List.append_nil, structsAfter_nil] at hlast
    exact hlast
  | cons entry structs ih =>
    obtain ⟨g, s⟩ := entry
    have htext : Document.text ⟨(g, s) :: structs, last⟩
        = g.text ++ (s.text ++ Document.text ⟨structs, last⟩) := by
      simp [Document.text]
    obtain ⟨p, hp', hgap⟩ := structsAfter_gap hp g (s.text ++ Document.text ⟨structs, last⟩)
    rw [htext, hgap, structsAfter_struct hp', ih (by decide)]
    rfl

/-- Extraction inverts printing: every struct of the document comes back, in order, with its names,
types and raw tags. -/
theorem structs_text (d : Document) : structs d.text = d.decls :=
  structsAfter_document rfl d.structs d.last

end Source
end TagLint
