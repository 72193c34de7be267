import Mathlib.Data.Finset.Card
import TagLint.Proofs.Rule.Combination
import TagLint.Validate

/-! The pass over the entries of a field, position by position. -/
namespace TagLint
open Text

variable {r : Registry} {values : TagEntry → List Finding} {entries before after : List TagEntry}
  {e : TagEntry} {key : Text}

namespace FieldPass

/-- The findings of a field as diagnostics of a struct. -/
def diagnostics (r : Registry) (s : StructDecl) (f : FieldDecl) (entries : List TagEntry) :
    Except RuleFailure (List Diagnostic) :=
  (findings r entries).map fun found => found.map fun (finding, key) =>
    finding.on s.name f.name f.tag key

/-! ## What is said of an entry after others -/

def repeatErrors (before : List TagEntry) (e : TagEntry) : List Anchored :=
  if Occurs before e.lowered then [(duplicate e, e.token)] else []

/-- The two keys exclude each other. -/
def Rivals (a b : Text) : Prop :=
  (a = Combination.primaryKey ∧ b = Combination.unique) ∨
    (a = Combination.unique ∧ b = Combination.primaryKey)

instance (a b : Text) : Decidable (Rivals a b) := inferInstanceAs (Decidable (_ ∨ _))

/-- The error on a key that stands with its rival; it is shown on the key. -/
def conflict (key rival : Text) : Anchored :=
  (.error ("'" ++ key ++ "' and '" ++ rival ++ "' cannot be used together") (some key), key)

/-- Two errors where a key comes first and its rival came before. -/
def pairErrors (before : List TagEntry) (e : TagEntry) : List Anchored :=
  if Occurs before e.lowered then []
  else match before.find? fun d => Rivals d.lowered e.lowered with
    | some earlier => [conflict earlier.token e.token, conflict e.token earlier.token]
    | none => []

/-- Everything that is said of an entry after others, when `values` are the findings on values. -/
def entryFindings (v : Vocabulary) (values : TagEntry → List Finding) (before : List TagEntry)
    (e : TagEntry) : List Anchored :=
  repeatErrors before e ++ (verdict (v.classify e.key) e).map (·, e.token)
    ++ (values e).map (anchor e.token) ++ pairErrors before e

/-! ## One entry -/

theorem lower_nil : lower [] = [] := rfl

theorem token_ne_nil (h : e.lowered ≠ []) : e.token ≠ [] := by
  intro htoken
  simp only [TagEntry.token] at htoken
  split at htoken
  · apply h
    simp only [TagEntry.lowered, htoken, lower_nil]
  · contradiction

theorem rival?_eq_some_iff {a b : Text} : Combination.rival? a = some b ↔ Rivals b a := by
  have hne : Combination.primaryKey ≠ Combination.unique := by decide
  simp only [Combination.rival?, Rivals]
  split
  · subst a
    simp [hne, eq_comm]
  · split
    · subst a
      simp [hne.symm, eq_comm]
    · simp_all

theorem Rivals.ne_nil {a b : Text} (h : Rivals a b) : a ≠ [] ∧ b ≠ [] := by
  rcases h with ⟨rfl, rfl⟩ | ⟨rfl, rfl⟩
  · decide
  · decide

theorem anchor_conflict {a b : Text} (ha : a ≠ []) (fallback : Text) :
    anchor fallback (conflict a b).1 = conflict a b := by
  simp [anchor, conflict, Finding.error, ha]

theorem anchored_verdict (c : KeyClass) (e : TagEntry) :
    (verdict c e).map (anchor e.token) = (verdict c e).map (·, e.token) := by
  cases c <;> rfl

/-- An entry whose key has no rival has none among the entries before it. -/
theorem find?_rivals (before : List TagEntry) (key : Text) :
    (before.find? fun d => Rivals d.lowered key)
      = (Combination.rival? key).bind fun other => before.find? (·.lowered = other) := by
  simp only [← rival?_eq_some_iff]
  cases Combination.rival? key with
  | none => simp
  | some other => simp [eq_comm]

theorem anchored_pairConflicts (hnew : ¬ Occurs before e.lowered) :
    (Combination.pairConflicts (FieldScan.ofEntries before) e).map (anchor e.token)
      = pairErrors before e := by
  simp only [pairErrors, if_neg hnew, Combination.pairConflicts, find?_rivals]
  cases hrival : Combination.rival? e.lowered with
  | none => rfl
  | some other =>
    simp only [FieldScan.has, FieldScan.token, FieldScan.find?_ofEntries, Option.bind_some]
    cases hfind : before.find? (·.lowered = other) with
    | none => simp
    | some earlier =>
      obtain ⟨hother, hcurrent⟩ := (rival?_eq_some_iff.mp hrival).ne_nil
      have hearlier : earlier.lowered = other := by simpa using List.find?_some hfind
      have hfirst := anchor_conflict (b := e.token) (token_ne_nil (hearlier ▸ hother)) e.token
      have hsecond := anchor_conflict (b := earlier.token) (token_ne_nil hcurrent) e.token
      simpa [conflict] using And.intro hfirst hsecond

/-- One step of the pass says what the entries so far call for. -/
theorem ofEntry_eq (hvalues : valueFindings r e = .ok (values e)) :
    ofEntry r (FieldScan.ofEntries before) e
      = .ok (entryFindings r.vocabulary values before e) := by
  simp only [ofEntry, hvalues]
  change Except.ok (List.map (anchor e.token) _) = _
  simp only [List.map_append, anchored_verdict, entryFindings]
  by_cases hnew : Occurs before e.lowered
  · have hhas := FieldScan.has_ofEntries.mpr hnew
    simp [hhas, repeatErrors, pairErrors, hnew, anchor, duplicate, Finding.error]
  · have hhas : (FieldScan.ofEntries before).has e.lowered = false := by
      simpa using fun h => hnew (FieldScan.has_ofEntries.mp h)
    simp [hhas, repeatErrors, hnew, anchored_pairConflicts hnew]

/-! ## The run over all entries -/

theorem ofEntries_eq (before : List TagEntry)
    (hvalues : ∀ e ∈ after, valueFindings r e = .ok (values e)) :
    ∃ found, ofEntries r (FieldScan.ofEntries before) after = .ok found ∧
      byPosition (entryFindings r.vocabulary values) before ++ found
        = byPosition (entryFindings r.vocabulary values) (before ++ after)
          ++ (Combination.findings (firsts (before ++ after))).map (anchor []) := by
  induction after generalizing before with
  | nil =>
    refine ⟨_, rfl, ?_⟩
    simp [FieldScan.ofEntries_eq_firsts]
  | cons e after ih =>
    obtain ⟨he, hafter⟩ := List.forall_mem_cons.mp hvalues
    obtain ⟨found, hfound, heq⟩ := ih (before ++ [e]) hafter
    refine ⟨entryFindings r.vocabulary values before e ++ found, ?_, ?_⟩
    · rw [ofEntries, ofEntry_eq he, ← FieldScan.ofEntries_concat, hfound]
      rfl
    · rw [byPosition_concat, List.append_assoc, List.append_assoc] at heq
      exact heq

theorem findings_eq (hvalues : ∀ e ∈ entries, valueFindings r e = .ok (values e)) :
    findings r entries = .ok (byPosition (entryFindings r.vocabulary values) entries
      ++ (Combination.findings (firsts entries)).map (anchor [])) := by
  obtain ⟨found, hfound, heq⟩ := ofEntries_eq [] hvalues
  rw [byPosition_nil, List.nil_append, List.nil_append] at heq
  rw [findings, ← heq]
  exact hfound

/-! ## Counts -/

theorem length_repeatErrors (entries : List TagEntry) :
    (byPosition repeatErrors entries).length + (entries.map TagEntry.lowered).toFinset.card
      = entries.length := by
  induction entries using List.reverseRecOn with
  | nil => rfl
  | append_singleton before e ih =>
    have hkeys : ((before ++ [e]).map TagEntry.lowered).toFinset
        = insert e.lowered (before.map TagEntry.lowered).toFinset := by
      ext key
      simp
    rw [byPosition_concat, hkeys, List.length_append, List.length_append]
    by_cases hnew : Occurs before e.lowered
    · rw [Finset.insert_eq_of_mem (by simpa [Occurs] using hnew)]
      simp [repeatErrors, hnew]
      omega
    · rw [Finset.card_insert_of_notMem (by simpa [Occurs] using hnew)]
      simp [repeatErrors, hnew]
      omega

/-! ## Keys that exclude each other -/

/-- The errors on the two keys that exclude each other, as each is first written. -/
def pairOf (entries : List TagEntry) : List Anchored :=
  match firstToken? entries Combination.primaryKey, firstToken? entries Combination.unique with
  | some primary, some unique => [conflict primary unique, conflict unique primary]
  | _, _ => []

theorem pairErrors_eq (before : List TagEntry) (e : TagEntry) :
    pairErrors before e = match firstToken? before e.lowered,
      (Combination.rival? e.lowered).bind (firstToken? before) with
      | none, some earlier => [conflict earlier e.token, conflict e.token earlier]
      | _, _ => [] := by
  rw [pairErrors, find?_rivals]
  by_cases hnew : Occurs before e.lowered
  · obtain ⟨token, htoken⟩ := Option.isSome_iff_exists.mp (isSome_firstToken?_iff.mpr hnew)
    rw [if_pos hnew, htoken]
  · have hnone : firstToken? before e.lowered = none := by
      simpa using fun h => hnew (isSome_firstToken?_iff.mp h)
    rw [if_neg hnew, hnone]
    cases Combination.rival? e.lowered with
    | none => rfl
    | some other =>
      simp only [Option.bind_some, firstToken?]
      cases before.find? (·.lowered = other) <;> rfl

/-- The pair is complete with the key that comes second, whichever it is. -/
theorem pairOf_concat (before : List TagEntry) (e : TagEntry) :
    (pairOf before ++ pairErrors before e).Perm (pairOf (before ++ [e])) := by
  have hne : Combination.primaryKey ≠ Combination.unique := by decide
  rw [pairErrors_eq]
  simp only [pairOf, firstToken?_concat]
  by_cases hprimary : e.lowered = Combination.primaryKey
  · simp only [hprimary, Combination.rival?, hne, reduceIte, Option.bind_some, Option.or_none]
    cases firstToken? before Combination.primaryKey with
    | some primary => simp
    | none =>
      cases firstToken? before Combination.unique with
      | none => exact .refl _
      -- the error on the earlier key comes first, and here that is the second one of the pair
      | some unique => exact .swap _ _ _
  · by_cases hunique : e.lowered = Combination.unique
    · simp only [hunique, Combination.rival?, hne.symm, reduceIte, Option.bind_some, Option.or_none]
      cases firstToken? before Combination.unique with
      | some unique => simp
      | none => cases firstToken? before Combination.primaryKey <;> exact .refl _
    · simp [hprimary, hunique, Combination.rival?]

/-- The pair is reported once, at whichever of the two keys comes second, and with the same two
errors. -/
theorem byPosition_pairErrors_perm (entries : List TagEntry) :
    (byPosition pairErrors entries).Perm (pairOf entries) := by
  induction entries using List.reverseRecOn with
  | nil => exact .refl _
  | append_singleton before e ih =>
    rw [byPosition_concat]
    exact (ih.append_right _).trans (pairOf_concat before e)

theorem length_pairErrors (entries : List TagEntry) : (byPosition pairErrors entries).length
    = if Occurs entries Combination.primaryKey ∧ Occurs entries Combination.unique then 2
      else 0 := by
  rw [(byPosition_pairErrors_perm entries).length_eq, pairOf]
  simp only [← isSome_firstToken?_iff]
  cases firstToken? entries Combination.primaryKey with
  | none => simp
  | some primary => cases firstToken? entries Combination.unique <;> simp

/-! ## The field pass -/

/-- The pass says what its definition by positions says: every entry in turn, judged by the entries
before it, then each rule on the keys at most once. Those rules see only which keys occur and how
each is first written; the error on an ignored field lists the other keys in the order in which they
come first. -/
theorem diagnostics_eq_byPosition (s : StructDecl) (f : FieldDecl)
    (hvalues : ∀ e ∈ entries, valueFindings r e = .ok (values e)) :
    diagnostics r s f entries
      = .ok ((byPosition (entryFindings r.vocabulary values) entries
          ++ (Combination.rules.flatMap (· (firsts entries))).map (anchor [])).map
            fun (finding, key) => finding.on s.name f.name f.tag key)
    ∧ (Combination.rules.length = 8 ∧ ∀ rule ∈ Combination.rules,
      (rule (firsts entries)).length ≤ 1)
    ∧ (∀ other, SameKeys entries other →
        (∀ rule ∈ Combination.rules, rule ≠ Combination.ignoredWithOtherKeys →
          rule (firsts entries) = rule (firsts other))
        ∧ Combination.IgnoredAlike entries other)
    ∧ (byPosition repeatErrors entries).length
        = entries.length - (entries.map TagEntry.lowered).toFinset.card
    ∧ (byPosition pairErrors entries).length
        = if Occurs entries Combination.primaryKey ∧ Occurs entries Combination.unique then 2
          else 0 := by
  refine ⟨?_, ⟨rfl, fun rule hrule => Combination.length_rule_le rule hrule _⟩, ?_, ?_,
    length_pairErrors entries⟩
  · rw [diagnostics, findings_eq hvalues]
    rfl
  · intro other hsame
    exact ⟨Combination.rule_of_sameKeys hsame.firsts, Combination.ignoredAlike_of_sameKeys hsame⟩
  · have hcount := length_repeatErrors entries
    omega

/-- A registry with a rule that repeats the value of its key. -/
def echoing : Registry :=
  { rules := ⟨[("echo".toList, ⟨.unnamed, fun e => .ok [.warning e.value (some "value".toList)]⟩)]⟩
    }

/-- A key in two spellings, behind its rival, and other keys after it. -/
def crowded : List TagEntry := TagEntry.ofSegment {} "Unique;primaryKey;PRIMARYKEY;echo:x;-".toList

def echoed (e : TagEntry) : List Finding :=
  if e.lowered = "echo".toList then [.warning e.value (some "value".toList)] else []

theorem diagnostics_eq_byPosition_crowded :
    (∀ e ∈ crowded, valueFindings echoing e = .ok (echoed e))
    ∧ (diagnostics echoing ⟨"A".toList, []⟩ ⟨"N".toList, [], []⟩ crowded).map (·.map (·.key))
        = .ok ([("Unique" : Text), "primaryKey", "PRIMARYKEY", "echo", "value", "-"].map some)
    ∧ (byPosition repeatErrors crowded).length = 1
    ∧ (byPosition pairErrors crowded).length = 2 := by
  have hvalues : ∀ e ∈ crowded, valueFindings echoing e = .ok (echoed e) := by decide +kernel
  obtain ⟨hall, -, -, hrepeats, hpairs⟩ :=
    diagnostics_eq_byPosition ⟨"A".toList, []⟩ ⟨"N".toList, [], []⟩ hvalues
  refine ⟨hvalues, ?_, hrepeats.trans (by decide +kernel), hpairs.trans (by decide +kernel)⟩
  rw [hall]
  decide +kernel

/-- The rules on the keys of a field also see in which order the keys come: the error on an ignored
field lists them so. -/
theorem ignored_lists_in_order :
    SameKeys (TagEntry.ofSegment {} "-;size;scale".toList)
      (TagEntry.ofSegment {} "-;scale;size".toList)
    ∧ findings {} (TagEntry.ofSegment {} "-;size;scale".toList)
        = .ok [(Combination.ignoredError ["size".toList, "scale".toList], "-".toList)]
    ∧ findings {} (TagEntry.ofSegment {} "-;scale;size".toList)
        = .ok [(Combination.ignoredError ["scale".toList, "size".toList], "-".toList)]
    ∧ Combination.findings (firsts (TagEntry.ofSegment {} "-;size;scale".toList))
        ≠ Combination.findings (firsts (TagEntry.ofSegment {} "-;scale;size".toList)) := by
  refine ⟨sameKeys_of_perm (by decide +kernel) (by decide +kernel), ?_, ?_, ?_⟩
  · decide +kernel
  · decide +kernel
  · decide +kernel

end FieldPass
end TagLint
