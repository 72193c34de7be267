import Mathlib.Data.Finset.Card
import Mathlib.Data.List.Perm.Basic
import TagLint.Rule.Combination

/-! The keys of a field: where they occur, where they come first, and what rules make of them. -/
namespace TagLint
open Text

variable {α β : Type} {entries before a b : List TagEntry} {scan : FieldScan} {e : TagEntry}
  {key token : Text} {g : List TagEntry → TagEntry → List β}

/-- What is found at each position, by the entry there and the entries before it. -/
def byPosition (found : List TagEntry → TagEntry → List β) (entries : List TagEntry) : List β :=
  (entries.mapIdx fun i e => found (entries.take i) e).flatten

@[simp] theorem byPosition_nil : byPosition g [] = [] := rfl

theorem byPosition_concat (before : List TagEntry) (e : TagEntry) :
    byPosition g (before ++ [e]) = byPosition g before ++ g before e := by
  have hbefore : before.mapIdx (fun i d => g ((before ++ [e]).take i) d)
      = before.mapIdx fun i d => g (before.take i) d := by
    apply List.ext_getElem
    · simp
    · intro i hi _
      have hle : i ≤ before.length := by simp at hi; omega
      simp [List.take_append_of_le_length hle]
  rw [byPosition, List.mapIdx_concat, List.flatten_append, hbefore, List.take_left]
  simp [byPosition]

theorem byPosition_append_perm (g h : List TagEntry → TagEntry → List β) (entries : List TagEntry) :
    (byPosition (fun before e => g before e ++ h before e) entries).Perm
      (byPosition g entries ++ byPosition h entries) := by
  induction entries using List.reverseRecOn with
  | nil => exact .refl _
  | append_singleton before e ih =>
    rw [byPosition_concat, byPosition_concat, byPosition_concat]
    refine (ih.append_right _).trans ?_
    rw [List.append_assoc, List.append_assoc, ← List.append_assoc _ (g before e),
      ← List.append_assoc (g before e)]
    exact (List.perm_append_comm.append_right _).append_left _

theorem forall_mem_byPosition {g : List TagEntry → TagEntry → List β} {P : β → Prop}
    (h : ∀ before e, ∀ x ∈ g before e, P x) : ∀ x ∈ byPosition g entries, P x := by
  induction entries using List.reverseRecOn with
  | nil => simp
  | append_singleton before e ih =>
    rw [byPosition_concat, List.forall_mem_append]
    exact ⟨ih, h before e⟩

theorem byPosition_of_entry (g : TagEntry → List β) (entries : List TagEntry) :
    byPosition (fun _ e => g e) entries = entries.flatMap g := by
  induction entries using List.reverseRecOn with
  | nil => rfl
  | append_singleton before e ih =>
    rw [byPosition_concat, ih, List.flatMap_append, List.flatMap_singleton]

theorem byPosition_flatMap (g : List TagEntry → TagEntry → List α) (h : α → List β)
    (entries : List TagEntry) :
    (byPosition g entries).flatMap h
      = byPosition (fun before e => (g before e).flatMap h) entries := by
  induction entries using List.reverseRecOn with
  | nil => rfl
  | append_singleton before e ih =>
    rw [byPosition_concat, byPosition_concat, List.flatMap_append, ih]

namespace FieldPass

/-- An entry has the key. -/
def Occurs (entries : List TagEntry) (key : Text) : Prop := ∃ e ∈ entries, e.lowered = key

instance : Decidable (Occurs entries key) :=
  inferInstanceAs (Decidable (∃ e ∈ entries, e.lowered = key))

/-- The first entry of each key, in order. -/
def firsts (entries : List TagEntry) : List TagEntry :=
  byPosition (fun before e => if Occurs before e.lowered then [] else [e]) entries

/-- The key as its first entry writes it. -/
def firstToken? (entries : List TagEntry) (key : Text) : Option Text :=
  (entries.find? (·.lowered = key)).map TagEntry.token

/-- The same keys occur, and each is written the same way where it comes first. -/
def SameKeys (a b : List TagEntry) : Prop := ∀ key, firstToken? a key = firstToken? b key

@[simp] theorem not_occurs_nil : ¬ Occurs [] key := by simp [Occurs]

theorem occurs_iff_mem : Occurs entries key ↔ key ∈ entries.map TagEntry.lowered := by
  simp [Occurs]

theorem isSome_find?_iff : (entries.find? (·.lowered = key)).isSome ↔ Occurs entries key := by
  simp [Occurs]

theorem isSome_firstToken?_iff : (firstToken? entries key).isSome ↔ Occurs entries key := by
  rw [firstToken?, Option.isSome_map, isSome_find?_iff]

theorem firstToken?_concat (before : List TagEntry) (e : TagEntry) (key : Text) :
    firstToken? (before ++ [e]) key
      = (firstToken? before key).or (if e.lowered = key then some e.token else none) := by
  rw [firstToken?, firstToken?, List.find?_append]
  cases before.find? (·.lowered = key) with
  | some d => rfl
  | none =>
    by_cases hkey : e.lowered = key
    · simp [hkey]
    · simp [hkey]

end FieldPass

open FieldPass

/-! ## The scan holds the first entries -/

namespace FieldScan

theorem ofEntries_concat (before : List TagEntry) (e : TagEntry) :
    ofEntries (before ++ [e]) = (ofEntries before).observe e := by
  simp [ofEntries]

/-- Looking a key up in the scan is looking it up among all entries so far. -/
theorem find?_ofEntries (entries : List TagEntry) (key : Text) :
    (ofEntries entries).find? key = entries.find? (·.lowered = key) := by
  induction entries using List.reverseRecOn with
  | nil => rfl
  | append_singleton before e ih =>
    rw [ofEntries_concat, observe]
    split
    · rename_i hhas
      rw [ih, List.find?_append]
      by_cases hkey : e.lowered = key
      · rw [hkey, has, ih] at hhas
        obtain ⟨d, hd⟩ := Option.isSome_iff_exists.mp hhas
        rw [hd]
        rfl
      · simp [hkey]
    · have hscan : (ofEntries before).find? key
          = List.find? (·.lowered = key) (ofEntries before) := rfl
      rw [List.find?_append, ← ih, hscan, find?, List.find?_append]

theorem has_ofEntries : (ofEntries entries).has key ↔ Occurs entries key := by
  rw [has, find?_ofEntries, isSome_find?_iff]

theorem ofEntries_eq_firsts (entries : List TagEntry) : ofEntries entries = firsts entries := by
  induction entries using List.reverseRecOn with
  | nil => rfl
  | append_singleton before e ih =>
    rw [ofEntries_concat, observe, firsts, byPosition_concat, ← firsts, ← ih]
    by_cases hkey : Occurs before e.lowered
    · rw [if_pos (has_ofEntries.mpr hkey), if_pos hkey, List.append_nil]
    · rw [if_neg (fun h => hkey (has_ofEntries.mp h)), if_neg hkey]

end FieldScan

namespace FieldPass

theorem firsts_concat : firsts (before ++ [e])
    = firsts before ++ if Occurs before e.lowered then [] else [e] :=
  byPosition_concat before e

theorem find?_firsts (entries : List TagEntry) (key : Text) :
    (firsts entries).find? (·.lowered = key) = entries.find? (·.lowered = key) := by
  rw [← FieldScan.ofEntries_eq_firsts]
  exact FieldScan.find?_ofEntries entries key

theorem occurs_firsts : Occurs (firsts entries) key ↔ Occurs entries key := by
  rw [← isSome_find?_iff, find?_firsts, isSome_find?_iff]

theorem nodup_firsts (entries : List TagEntry) : ((firsts entries).map TagEntry.lowered).Nodup := by
  induction entries using List.reverseRecOn with
  | nil => exact List.nodup_nil
  | append_singleton before e ih =>
    rw [firsts_concat]
    split
    · simpa using ih
    · rename_i hnew
      rw [← occurs_firsts, occurs_iff_mem] at hnew
      rw [List.map_append, List.map_singleton]
      exact List.nodup_append.mpr ⟨ih, List.nodup_singleton _, by
        intro k hk k' hk' heq
        rw [List.mem_singleton.mp hk'] at heq
        exact hnew (heq ▸ hk)⟩

theorem SameKeys.firsts (h : SameKeys a b) : SameKeys (firsts a) (firsts b) := by
  intro key
  rw [firstToken?, firstToken?, find?_firsts, find?_firsts]
  exact h key

theorem firsts_of_nodup (h : (entries.map TagEntry.lowered).Nodup) : firsts entries = entries := by
  induction entries using List.reverseRecOn with
  | nil => rfl
  | append_singleton before e ih =>
    rw [List.map_append, List.map_singleton, List.nodup_append] at h
    obtain ⟨hbefore, -, hnew⟩ := h
    have hkey : ¬ Occurs before e.lowered := by
      rw [occurs_iff_mem]
      exact fun hmem => hnew _ hmem _ (List.mem_singleton_self _) rfl
    rw [firsts_concat, ih hbefore, if_neg hkey]

/-- Where no key comes twice, an entry is the first one with its key. -/
theorem firstToken?_eq_some_iff (hnodup : (scan.map TagEntry.lowered).Nodup) :
    firstToken? scan key = some token ↔ (key, token) ∈ scan.map fun e => (e.lowered, e.token) := by
  induction scan with
  | nil => simp [firstToken?]
  | cons e scan ih =>
    rw [List.map_cons, List.nodup_cons] at hnodup
    rw [firstToken?, List.find?_cons, List.map_cons, List.mem_cons]
    by_cases hkey : e.lowered = key
    · subst hkey
      have hrest : (e.lowered, token) ∉ scan.map fun e => (e.lowered, e.token) := by
        intro hmem
        obtain ⟨d, hd, heq⟩ := List.mem_map.mp hmem
        exact hnodup.1 (List.mem_map.mpr ⟨d, hd, (Prod.mk.inj heq).1⟩)
      simp [hrest, eq_comm]
    · simp only [decide_eq_false hkey, Prod.mk.injEq, Ne.symm hkey, false_and, false_or]
      exact ih hnodup.2

theorem sameKeys_of_perm (hnodup : (a.map TagEntry.lowered).Nodup) (h : a.Perm b) :
    SameKeys a b := by
  intro key
  have hnodup' : (b.map TagEntry.lowered).Nodup := (h.map _).nodup_iff.mp hnodup
  apply Option.ext
  intro token
  rw [firstToken?_eq_some_iff hnodup, firstToken?_eq_some_iff hnodup', (h.map _).mem_iff]

/-- Two fields with the same keys have the same first entries but for their order. -/
theorem SameKeys.perm (h : SameKeys a b) :
    ((FieldPass.firsts a).map TagEntry.token).Perm ((FieldPass.firsts b).map TagEntry.token) := by
  have hpairs :
      ∀ entries, ((FieldPass.firsts entries).map fun e => (e.lowered, e.token)).Nodup := by
    intro entries
    refine List.Nodup.of_map Prod.fst ?_
    rw [List.map_map]
    exact nodup_firsts entries
  have hperm : ((FieldPass.firsts a).map fun e => (e.lowered, e.token)).Perm
      ((FieldPass.firsts b).map fun e => (e.lowered, e.token)) := by
    rw [List.perm_ext_iff_of_nodup (hpairs a) (hpairs b)]
    rintro ⟨key, token⟩
    rw [← firstToken?_eq_some_iff (nodup_firsts a), ← firstToken?_eq_some_iff (nodup_firsts b),
      h.firsts]
  have htokens := hperm.map Prod.snd
  rw [List.map_map, List.map_map] at htokens
  exact htokens

end FieldPass
end TagLint
