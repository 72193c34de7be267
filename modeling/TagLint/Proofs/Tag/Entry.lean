import TagLint.Proofs.Registry.Vocabulary
import TagLint.Proofs.Text.Pieces
import TagLint.Tag.Entry
import TagLint.Tag.Segment

/-! Keys and segments as they are written in a tag. -/
namespace TagLint
open Text

variable {literal segment part piece key cs s t : Text} {previous : Option Char} {quote : Char}

/-! ## Keys -/

/-- A key that stands in a segment. -/
structure KeyIn (segment key : Text) : Prop where
  ne_nil : key ≠ []
  stands : key <:+: segment

theorem KeyIn.segment_ne_nil (h : KeyIn segment key) : segment ≠ [] := by
  rintro rfl
  exact h.ne_nil (List.infix_nil.mp h.stands)

namespace TagEntry

variable {e : TagEntry} {v : Vocabulary}

/-- The key of an entry stands in a segment, and its lower case is what rules know it by. -/
structure WrittenIn (e : TagEntry) (segment : Text) : Prop where
  keyIn : KeyIn segment e.token
  lowered : e.lowered = lower e.token

theorem keyIn_splitPart (hpart : trim part = part) (hne : part ≠ []) :
    KeyIn part (splitPart part).1 ∧ trim (splitPart part).1 = (splitPart part).1 := by
  rw [splitPart]
  split
  · obtain ⟨c, r, rfl⟩ := List.exists_cons_of_ne_nil hne
    have hc : isBlank c = false := head?_trim (c :: r) c (by rw [hpart]; rfl)
    exact ⟨⟨trim_ne_nil List.mem_cons_self hc,
      (trim_isInfix _).trans (List.take_prefix _ _).isInfix⟩, trim_trim _⟩
  · rw [hpart]
    exact ⟨⟨hne, List.infix_rfl⟩, hpart⟩

/-- An entry is made of a trimmed part of its segment. -/
theorem exists_part_of_mem (he : e ∈ ofSegment v segment) :
    ∃ part, ofPart v part = e ∧ trim part = part ∧ part ≠ [] ∧ ';' ∉ part ∧ part <:+: segment := by
  obtain ⟨part, hpart, rfl⟩ := List.mem_map.mp he
  obtain ⟨hmem, hne⟩ := List.mem_filter.mp hpart
  obtain ⟨piece, hpiece, rfl⟩ := List.mem_map.mp hmem
  have hone : ';' ∉ trim piece :=
    fun h => not_mem_of_mem_split hpiece ((trim_isInfix piece).subset h)
  exact ⟨_, rfl, trim_trim piece, by simpa using hne, hone,
    (trim_isInfix piece).trans (infix_of_mem_split hpiece)⟩

theorem token_of_mem_ofSegment (he : e ∈ ofSegment v segment) : e.token = e.original := by
  obtain ⟨part, rfl, hpart, hne, -⟩ := exists_part_of_mem he
  exact if_neg (keyIn_splitPart hpart hne).1.ne_nil

/-- The key of an entry stands in its segment as it is written, whatever the vocabulary knows. -/
theorem keyIn_of_mem_ofSegment (he : e ∈ ofSegment v segment) : KeyIn segment e.token := by
  obtain ⟨part, rfl, hpart, hne, -, hs⟩ := exists_part_of_mem he
  obtain ⟨hkey, -⟩ := keyIn_splitPart hpart hne
  have htoken : (ofPart v part).token = (splitPart part).1 := if_neg hkey.ne_nil
  rw [htoken]
  exact ⟨hkey.ne_nil, hkey.stands.trans hs⟩

/-- The entry of a part goes by the key that is written there, for the rules and for the
vocabulary. -/
theorem keys_ofPart (hv : v.Sound) (hpart : trim part = part) (hne : part ≠ []) :
    (ofPart v part).token = (splitPart part).1 ∧
    (ofPart v part).lowered = lower (splitPart part).1 ∧
      foldKey (ofPart v part).key = lower (splitPart part).1 := by
  obtain ⟨hkey, htrim⟩ := keyIn_splitPart hpart hne
  have hfold : foldKey (splitPart part).1 = lower (splitPart part).1 := by rw [foldKey, htrim]
  exact ⟨if_neg hkey.ne_nil, (hv.lower_canonicalName _).trans hfold,
    (hv.foldKey_canonicalName _).trans hfold⟩

theorem foldKey_key_of_mem_ofSegment (hv : v.Sound) (he : e ∈ ofSegment v segment) :
    foldKey e.key = lower e.token := by
  obtain ⟨part, rfl, hpart, hne, -⟩ := exists_part_of_mem he
  obtain ⟨htoken, -, hfold⟩ := keys_ofPart hv hpart hne
  rw [htoken, hfold]

/-- The keys of a segment are written in it. -/
theorem writtenIn_of_mem_ofSegment (hv : v.Sound) (he : e ∈ ofSegment v segment) :
    e.WrittenIn segment := by
  refine ⟨keyIn_of_mem_ofSegment he, ?_⟩
  obtain ⟨part, rfl, hpart, hne, -⟩ := exists_part_of_mem he
  obtain ⟨htoken, hlower, -⟩ := keys_ofPart hv hpart hne
  rw [htoken, hlower]

end TagEntry

/-! ## Segments -/

namespace Segment

theorem prefix_of_untilQuote? (h : untilQuote? quote cs = some s) : s <+: cs := by
  fun_induction untilQuote? quote cs generalizing s with
  | case1 => simp at h
  | case2 => simp at h
  | case3 => simp at h
  | case4 d cs hd ih =>
    obtain ⟨r, hr, rfl⟩ := Option.map_eq_some_iff.mp h
    simpa using ih hr
  | case5 =>
    obtain rfl : [] = s := by simpa using h
    exact List.nil_prefix
  | case6 c cs _ _ _ ih =>
    obtain ⟨r, hr, rfl⟩ := Option.map_eq_some_iff.mp h
    simpa using ih hr

theorem Convention.infix_of_read? {convention : Convention} (h : convention.read? cs = some s) :
    s <:+: cs := by
  rw [read?.eq_def] at h
  split at h
  · exact (prefix_of_untilQuote? h).isInfix.trans (List.suffix_cons _ _).isInfix
  · exact (prefix_of_untilQuote? h).isInfix.trans (List.suffix_cons _ _).isInfix
  · obtain ⟨-, rfl⟩ : _ ∧ cs.takeWhile isBareChar = s := by simpa using h
    exact (List.takeWhile_prefix _).isInfix
  · simp at h

theorem exists_of_search? {convention : Convention} (h : search? convention previous t = some s) :
    ∃ a b, t = a ++ (mark ++ b) ∧ s <:+: b := by
  induction t generalizing previous with
  | nil => simp [search?] at h
  | cons c t ih =>
    rw [search?] at h
    split at h
    · rename_i found hfound
      obtain rfl : found = s := by simpa using h
      obtain ⟨-, hread⟩ := Option.ite_none_right_eq_some.mp hfound
      obtain ⟨b, hb, hread⟩ := Option.bind_eq_some_iff.mp hread
      refine ⟨[], b, ?_, Convention.infix_of_read? hread⟩
      rw [List.nil_append]
      exact after?_eq_some_iff.mp hb
    · obtain ⟨a, b, rfl, hs⟩ := ih h
      exact ⟨c :: a, b, rfl, hs⟩

/-- A segment that is not empty was found in one of the conventions. -/
theorem exists_convention_of_decode (hne : decode literal ≠ []) :
    ∃ convention, search? convention none literal = some (decode literal) := by
  cases hdouble : search? .double none literal with
  | some s => exact ⟨.double, by rw [decode, hdouble]; rfl⟩
  | none =>
    cases hsingle : search? .single none literal with
    | some s => exact ⟨.single, by rw [decode, hdouble, hsingle]; rfl⟩
    | none =>
      cases hbare : search? .bare none literal with
      | some s => exact ⟨.bare, by rw [decode, hdouble, hsingle, hbare]; rfl⟩
      | none => exact absurd (by rw [decode, hdouble, hsingle, hbare]; rfl) hne

/-- The segment of a tag is written behind a mark. -/
theorem exists_of_decode (hne : decode literal ≠ []) :
    ∃ a b, literal = a ++ (mark ++ b) ∧ decode literal <:+: b := by
  obtain ⟨convention, h⟩ := exists_convention_of_decode hne
  exact exists_of_search? h

/-- A key of the segment stands behind a mark of the tag. -/
theorem exists_behind_mark (h : KeyIn (decode literal) key) :
    ∃ a b, literal = a ++ (mark ++ b) ∧ key <:+: b := by
  obtain ⟨a, b, hliteral, hb⟩ := exists_of_decode h.segment_ne_nil
  exact ⟨a, b, hliteral, h.stands.trans hb⟩

end Segment
end TagLint
