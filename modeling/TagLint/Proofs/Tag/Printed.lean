import TagLint.Proofs.Registry.Run
import TagLint.Proofs.Tag.Entry

/-! Entries written as a segment, and read from it again. -/
namespace TagLint
open Text

variable {v : Vocabulary} {segment part : Text} {p : Text × Text} {pairs : List (Text × Text)}
  {e : TagEntry}

namespace TagEntry

/-- A key with its value; a value that is empty is not written, and neither is its colon. -/
def partText (p : Text × Text) : Text := if p.2 = [] then p.1 else p.1 ++ ':' :: p.2

def segmentText (pairs : List (Text × Text)) : Text := join ";" (pairs.map partText)

/-- The key as written, and the value. -/
def written (e : TagEntry) : Text × Text := (e.original, e.value)

def print (entries : List TagEntry) : Text := segmentText (entries.map written)

/-- A key and a value that stay what they are in a segment. A colon in the key must come first, and
then nothing is a value. -/
structure Printable (p : Text × Text) : Prop where
  token_ne_nil : p.1 ≠ []
  token_trimmed : trim p.1 = p.1
  token_one : ';' ∉ p.1
  value_trimmed : trim p.2 = p.2
  value_one : ';' ∉ p.2
  colon : ':' ∉ p.1 ∨ p.1.head? = some ':' ∧ p.2 = []

instance (p : Text × Text) : Decidable (Printable p) :=
  decidable_of_iff (p.1 ≠ [] ∧ trim p.1 = p.1 ∧ ';' ∉ p.1 ∧ trim p.2 = p.2 ∧ ';' ∉ p.2 ∧
      (':' ∉ p.1 ∨ p.1.head? = some ':' ∧ p.2 = []))
    ⟨fun ⟨h₁, h₂, h₃, h₄, h₅, h₆⟩ => ⟨h₁, h₂, h₃, h₄, h₅, h₆⟩,
      fun ⟨h₁, h₂, h₃, h₄, h₅, h₆⟩ => ⟨h₁, h₂, h₃, h₄, h₅, h₆⟩⟩

/-- What every entry of a segment is: its key stands for itself, and its lower case is that of the
key. -/
structure Normal (e : TagEntry) : Prop where
  token : e.token = e.original
  printable : Printable e.written
  lowered : e.lowered = lower e.token

/-! ## One part -/

theorem Printable.partText_ne_nil (h : Printable p) : partText p ≠ [] := by
  rw [partText]
  split
  · exact h.token_ne_nil
  · simp

theorem Printable.not_mem_partText (h : Printable p) : ';' ∉ partText p := by
  rw [partText]
  split
  · exact h.token_one
  · simp [h.token_one, h.value_one]

theorem Printable.trim_partText (h : Printable p) : trim (partText p) = partText p := by
  rw [partText]
  split
  · exact h.token_trimmed
  · rename_i hvalue
    have hlast : (p.1 ++ ':' :: p.2).getLast? = p.2.getLast? := by
      rw [List.getLast?_append_of_ne_nil _ (List.cons_ne_nil _ _),
        List.getLast?_cons_of_ne_nil hvalue]
    refine trim_of_ends ?_ ?_
    · rw [List.head?_append_of_ne_nil _ h.token_ne_nil, ← h.token_trimmed]
      exact head?_trim p.1
    · rw [hlast, ← h.value_trimmed]
      exact getLast?_trim p.2

/-- A part is split where it was put together. -/
theorem Printable.splitPart_partText (h : Printable p) : splitPart (partText p) = p := by
  obtain ⟨token, value⟩ := p
  have htoken : trim token = token := h.token_trimmed
  have hvalue : trim value = value := h.value_trimmed
  rcases h.colon with hcolon | ⟨hfirst, hempty⟩
  · by_cases hempty : value = []
    · subst hempty
      simp only [partText, splitPart, reduceIte, findIdx?_eq_none_of_not_mem hcolon, htoken]
    · obtain ⟨c, r, hcons⟩ := List.exists_cons_of_ne_nil h.token_ne_nil
      have hlength : token.length = r.length + 1 := congrArg List.length hcons
      have hdrop : (token ++ ':' :: value).drop (r.length + 2) = value := by
        rw [← List.singleton_append, ← List.append_assoc, List.drop_left' (by simp [hlength])]
      have htake : (token ++ ':' :: value).take (r.length + 1) = token := List.take_left' hlength
      have hidx : (token ++ ':' :: value).findIdx? (· == ':') = some (r.length + 1) := by
        rw [findIdx?_append_cons hcolon, hlength]
      simp only [partText, splitPart, if_neg hempty, hidx, htake, hdrop, htoken, hvalue]
  · obtain rfl : value = [] := hempty
    obtain ⟨r, rfl⟩ : ∃ r, token = ':' :: r := by
      cases token with
      | nil => simp at hfirst
      | cons c r => exact ⟨r, by simpa using hfirst⟩
    have hidx : (':' :: r).findIdx? (· == ':') = some 0 := by simp [List.findIdx?_cons]
    simp only [partText, splitPart, reduceIte, hidx, htoken]

/-! ## A segment -/

/-- The entry of a key and a value. -/
def ofWritten (v : Vocabulary) (p : Text × Text) : TagEntry := ⟨v.canonicalName p.1, p.2, p.1⟩

theorem ofPart_partText (h : Printable p) : ofPart v (partText p) = ofWritten v p := by
  rw [ofPart, h.splitPart_partText]
  rfl

/-- What is written of keys and values is read as their entries. -/
theorem ofSegment_segmentText (h : ∀ p ∈ pairs, Printable p) :
    ofSegment v (segmentText pairs) = pairs.map (ofWritten v) := by
  by_cases hnil : pairs = []
  · subst hnil
    rfl
  have hsplit : split ';' (segmentText pairs) = pairs.map partText := by
    refine split_join (by simpa using hnil) ?_
    intro part hpart
    obtain ⟨p, hp, rfl⟩ := List.mem_map.mp hpart
    exact (h p hp).not_mem_partText
  have htrim : (pairs.map partText).map trim = pairs.map partText := by
    rw [List.map_map]
    exact List.map_congr_left fun p hp => (h p hp).trim_partText
  have hfilter : (pairs.map partText).filter (· ≠ []) = pairs.map partText := by
    rw [List.filter_eq_self]
    intro part hpart
    obtain ⟨p, hp, rfl⟩ := List.mem_map.mp hpart
    simpa using (h p hp).partText_ne_nil
  rw [ofSegment, hsplit, htrim, hfilter, List.map_map]
  exact List.map_congr_left fun p hp => ofPart_partText (h p hp)

theorem not_mem_take_of_findIdx? {t : Text} {c : Char} {n : Nat}
    (h : t.findIdx? (· == c) = some n) :
    c ∉ t.take n := by
  obtain ⟨hlt, -, hbefore⟩ := List.findIdx?_eq_some_iff_getElem.mp h
  intro hmem
  obtain ⟨i, hi, hc⟩ := List.mem_take_iff_getElem.mp hmem
  exact hbefore i (Nat.lt_min.mp hi).1 (by simp [hc])

/-- The key and the value of a trimmed part without separators can be written again. -/
theorem printable_splitPart (hpart : trim part = part) (hne : part ≠ []) (hone : ';' ∉ part) :
    Printable (splitPart part) := by
  obtain ⟨hkey, htrim⟩ := keyIn_splitPart hpart hne
  have hkeyOne : ';' ∉ (splitPart part).1 := fun hmem => hone (hkey.stands.subset hmem)
  -- One case per place of the first colon: nowhere, in front, or behind a key.
  cases hidx : part.findIdx? (· == ':') with
  | none =>
    have hcolon : ':' ∉ part := by
      intro hmem
      simpa using List.findIdx?_eq_none_iff.mp hidx ':' hmem
    simp only [splitPart, hidx] at htrim hkeyOne ⊢
    exact ⟨hpart.symm ▸ hne, htrim, hkeyOne, rfl, List.not_mem_nil, .inl (hpart.symm ▸ hcolon)⟩
  | some n =>
    cases n with
    | zero =>
      obtain ⟨hlt, hfirst, -⟩ := List.findIdx?_eq_some_iff_getElem.mp hidx
      have hhead : part.head? = some ':' := by
        rw [List.head?_eq_getElem?, List.getElem?_eq_getElem hlt]
        simpa using hfirst
      simp only [splitPart, hidx] at htrim hkeyOne ⊢
      exact ⟨hpart.symm ▸ hne, htrim, hkeyOne, rfl, List.not_mem_nil,
        .inr ⟨hpart.symm ▸ hhead, rfl⟩⟩
    | succ i =>
      have hkeyNe := hkey.ne_nil
      have hvalueOne : ';' ∉ trim (part.drop (i + 2)) :=
        fun hmem => hone (List.mem_of_mem_drop ((trim_isInfix _).subset hmem))
      have hcolon : ':' ∉ trim (part.take (i + 1)) :=
        fun hmem => not_mem_take_of_findIdx? hidx ((trim_isInfix _).subset hmem)
      simp only [splitPart, hidx] at htrim hkeyOne hkeyNe ⊢
      exact ⟨hkeyNe, htrim, hkeyOne, trim_trim _, hvalueOne, .inl hcolon⟩

theorem exists_printable_of_mem (he : e ∈ ofSegment v segment) :
    ∃ p, Printable p ∧ ofWritten v p = e := by
  obtain ⟨part, rfl, hpart, hne, hone, -⟩ := exists_part_of_mem he
  exact ⟨_, printable_splitPart hpart hne hone, rfl⟩

theorem written_ofWritten (v : Vocabulary) (p : Text × Text) : (ofWritten v p).written = p := rfl

theorem normal_ofWritten (hv : v.Sound) (h : Printable p) : Normal (ofWritten v p) := by
  have htoken : (ofWritten v p).token = p.1 := if_neg h.token_ne_nil
  refine ⟨htoken, h, ?_⟩
  rw [htoken]
  exact (hv.lower_canonicalName p.1).trans (congrArg lower h.token_trimmed)

theorem normal_of_mem_ofSegment (hv : v.Sound) (he : e ∈ ofSegment v segment) : Normal e := by
  obtain ⟨p, hp, rfl⟩ := exists_printable_of_mem he
  exact normal_ofWritten hv hp

theorem ofSegment_print (v : Vocabulary) (segment : Text) :
    ofSegment v (print (ofSegment v segment)) = ofSegment v segment := by
  have hprintable : ∀ p ∈ (ofSegment v segment).map written, Printable p := by
    intro p hp
    obtain ⟨e, he, rfl⟩ := List.mem_map.mp hp
    obtain ⟨p, hprintable, rfl⟩ := exists_printable_of_mem he
    exact hprintable
  have hsame : ∀ e ∈ ofSegment v segment, (ofWritten v ∘ written) e = e := by
    intro e he
    obtain ⟨p, -, rfl⟩ := exists_printable_of_mem he
    rfl
  rw [print, ofSegment_segmentText hprintable, List.map_map]
  exact (List.map_congr_left hsame).trans (List.map_id _)

/-- In every state of the registries: a segment that is read, written and read again has the same
entries; each of them is in normal form; and keys and values that are in normal form come back as
they were written, in order, repeated ones too. -/
theorem ofSegment_inverse_print (calls : List RegistryCall) :
    let v := (({} : Registry).after calls).vocabulary
    (∀ segment, ofSegment v (print (ofSegment v segment)) = ofSegment v segment) ∧
    (∀ segment, ∀ e ∈ ofSegment v segment, Normal e) ∧
    ∀ pairs, (∀ p ∈ pairs, Printable p) →
    (ofSegment v (segmentText pairs)).map written = pairs := by
  intro v
  have hv : v.Sound := by
    rw [show v = _ from Registry.vocabulary_after _ _]
    exact Vocabulary.sound_empty.after _
  refine ⟨ofSegment_print v, fun segment e he => normal_of_mem_ofSegment hv he, ?_⟩
  intro pairs hpairs
  rw [ofSegment_segmentText hpairs, List.map_map]
  exact (List.map_congr_left fun p _ => written_ofWritten v p).trans (List.map_id pairs)

/-- A key in two spellings, taken back once. -/
def tenantCalls : List RegistryCall := [
  .key (.add "Tenant" (.known .caution)), .key (.drop "TENANT"),
    .key (.add "tenantID " (.known .recommended))]

/-- A colon in a value, a key that starts with one, a key that is repeated. -/
def tenantPairs : List (Text × Text) := [
  ("TENANTID", "a : b"), (":x:y", ""), ("İd", ""), ("TENANTID", "a : b"), ("not null", ":")]

theorem ofSegment_inverse_print_tenant :
    (∀ p ∈ tenantPairs, Printable p) ∧
    segmentText tenantPairs = "TENANTID:a : b;:x:y;İd;TENANTID:a : b;not null::".toList ∧
    (ofSegment (({} : Registry).after tenantCalls).vocabulary (segmentText tenantPairs)).map written
      = tenantPairs := by
  have hpairs : ∀ p ∈ tenantPairs, Printable p := by decide +kernel
  obtain ⟨-, -, hread⟩ := ofSegment_inverse_print tenantCalls
  exact ⟨hpairs, by decide +kernel, hread tenantPairs hpairs⟩

end TagEntry
end TagLint
