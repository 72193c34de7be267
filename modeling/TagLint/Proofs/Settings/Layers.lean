import TagLint.Proofs.Settings.Laws
import TagLint.Proofs.Registry.Dict

/-! Tables laid over each other: what a key holds in the end. -/
namespace TagLint
open Text

variable {p : Package} {name k key : Text} {v : Json} {pairs low high a b : Json.Pairs}

namespace Json

theorem put_eq_set (k : Text) (v : Json) (pairs : List (Text × Json)) :
    put k v pairs = Dict.set k v pairs := by
  induction pairs with
  | nil => rfl
  | cons p pairs ih =>
    rw [put, Dict.set, ih]
    by_cases h : p.1 = k
    · simp [h]
    · simp [h]

theorem lookup?_put (k key : Text) (v : Json) (pairs : List (Text × Json)) :
    lookup? key (put k v pairs) = if k = key then some v else lookup? key pairs := by
  rw [put_eq_set]
  by_cases h : k = key
  · subst h
    rw [if_pos rfl]
    exact Dict.get?_set_self k v pairs
  · rw [if_neg h]
    exact Dict.get?_set_of_ne h v pairs

theorem lookup?_cons (p : Text × Json) (pairs : List (Text × Json)) :
    lookup? key (p :: pairs) = if p.1 = key then some p.2 else lookup? key pairs :=
  Dict.get?_cons p pairs

theorem lookup?_append : lookup? key (low ++ high) = (lookup? key low).or (lookup? key high) :=
  Dict.get?_append key low high

theorem lookup?_eq_none_iff : lookup? key pairs = none ↔ key ∉ pairs.map Prod.fst :=
  Dict.get?_eq_none_iff

theorem mem_of_lookup? (h : lookup? key pairs = some v) : (key, v) ∈ pairs := by
  obtain ⟨p, hp, rfl⟩ := Option.map_eq_some_iff.mp h
  obtain rfl : p.1 = key := by simpa using List.find?_some hp
  exact List.mem_of_find?_eq_some hp

theorem nodup_keys_put (h : (pairs.map Prod.fst).Nodup) : ((put k v pairs).map Prod.fst).Nodup := by
  rw [put_eq_set]
  exact Dict.nodup_keys_set h

section Entries

variable {α : Type} {f : α → Text} {g : α → Option (Text × Json)} {l : List α} {a : α}

theorem keys_filterMap_sublist (hkey : ∀ a p, g a = some p → p.1 = f a) :
    ((l.filterMap g).map Prod.fst).Sublist (l.map f) := by
  induction l with
  | nil => exact .slnil
  | cons a l ih =>
    cases ha : g a with
    | none =>
      rw [List.filterMap_cons_none ha]
      exact ih.cons _
    | some p =>
      rw [List.filterMap_cons_some ha, List.map_cons, List.map_cons, hkey a p ha]
      exact ih.cons_cons _

/-- Entries under different keys are found each under its own. -/
theorem lookup?_filterMap (hkey : ∀ a p, g a = some p → p.1 = f a) (hnodup : (l.map f).Nodup)
    (ha : a ∈ l) :
    lookup? (f a) (l.filterMap g) = (g a).map Prod.snd := by
  induction l with
  | nil => cases ha
  | cons b l ih =>
    obtain ⟨hb, hl⟩ := List.nodup_cons.mp hnodup
    obtain rfl | ha := List.mem_cons.mp ha
    · cases hg : g a with
      | none =>
        rw [List.filterMap_cons_none hg, Option.map_none, lookup?_eq_none_iff]
        exact fun hmem => hb ((keys_filterMap_sublist hkey).subset hmem)
      | some p =>
        rw [List.filterMap_cons_some hg, lookup?_cons, if_pos (hkey a p hg)]
        rfl
    · cases hg : g b with
      | none =>
        rw [List.filterMap_cons_none hg]
        exact ih hl ha
      | some p =>
        have hne : p.1 ≠ f a := fun heq => hb (hkey b p hg ▸ heq ▸ List.mem_map_of_mem ha)
        rw [List.filterMap_cons_some hg, lookup?_cons, if_neg hne]
        exact ih hl ha

end Entries

end Json

open Json

namespace Settings

theorem gives_of_none (h : lookup? name pairs = none) : gives name key pairs = none := by
  simp [gives, h]

theorem gives_of_dict (h : lookup? name pairs = some (.dict a)) :
    gives name key pairs = lookup? key a := by
  simp [gives, h, get?]

theorem gives_of_scalar (h : ∀ a, lookup? name pairs ≠ some (.dict a)) :
    gives name key pairs = none := by
  cases hn : lookup? name pairs with
  | none => exact gives_of_none hn
  | some v =>
    cases v with
    | dict a => exact (h a hn).elim
    | _ => simp [gives, hn, get?]

/-- A section that is there is a table. -/
def IsSection (name : Text) (pairs : Pairs) : Prop :=
  ∀ v, lookup? name pairs = some v → ∃ sub, v = .dict sub

end Settings

open Settings

/-! ## A key of two sources -/

namespace Package

theorem onTop_dict : p.onTop (some (.dict a)) (some (.dict b)) = some (.dict (p.merged [a, b])) :=
  rfl

theorem onTop_of_scalar {upper : Option Json} (h : ∀ sub, upper ≠ some (.dict sub))
    (lower : Option Json) : p.onTop upper lower = upper.or lower := by
  unfold onTop
  split
  · exact (h _ rfl).elim
  · rfl
  · rfl

/-- Only tables merge. -/
theorem onTop_of_lone {lower : Option Json} (h : ∀ sub, lower ≠ some (.dict sub)) :
    p.onTop (some v) lower = some v := by
  cases lower with
  | none => cases v <;> rfl
  | some low =>
    cases low with
    | dict sub => exact (h sub rfl).elim
    | _ => cases v <;> rfl

theorem exists_over_eq_dict (a : Pairs) (lower : Option Json) :
    ∃ sub, p.onTop (some (.dict a)) lower = some (.dict sub) := by
  by_cases hlower : ∃ b, lower = some (.dict b)
  · obtain ⟨b, rfl⟩ := hlower
    exact ⟨_, rfl⟩
  · exact ⟨a, onTop_of_lone (not_exists.mp hlower)⟩

variable (hp : p.Lawful)
include hp

theorem lookup?_layered (low : Pairs) (hhigh : Distinct high)
    (hscalar : ∀ sub, lookup? key high ≠ some (.dict sub)) :
    lookup? key (p.merged [high, low]) = (lookup? key high).or (lookup? key low) := by
  rw [hp.lookup?_merged low key hhigh.keys, onTop_of_scalar hscalar]

theorem mem_keys_layered_iff (hhigh : Distinct high) :
    key ∈ (p.merged [high, low]).map Prod.fst
      ↔ key ∈ high.map Prod.fst ∨ key ∈ low.map Prod.fst := by
  rw [← Decidable.not_iff_not, not_or, ← lookup?_eq_none_iff, ← lookup?_eq_none_iff,
    ← lookup?_eq_none_iff, hp.lookup?_merged low key hhigh.keys]
  cases hkey : lookup? key high with
  | none => simp [onTop]
  | some v =>
    have hsome : p.onTop (some v) (lookup? key low) ≠ none := by
      unfold onTop
      split <;> simp_all
    simp [hsome]

/-- A section of the upper source takes what the lower one has under its name, if that is a table
too. -/
theorem section_layered (low : Pairs) (hhigh : Distinct high)
    (ha : lookup? name high = some (.dict a)) :
    lookup? name (p.merged [high, low]) = some (.dict a) ∧ (∀ b, lookup? name low ≠ some (.dict b))
    ∨ ∃ b, lookup? name low = some (.dict b)
      ∧ lookup? name (p.merged [high, low]) = some (.dict (p.merged [a, b])) := by
  rw [hp.lookup?_merged low name hhigh.keys, ha]
  by_cases hlow : ∃ b, lookup? name low = some (.dict b)
  · obtain ⟨b, hb⟩ := hlow
    exact .inr ⟨b, hb, by rw [hb, onTop_dict]⟩
  · exact .inl ⟨onTop_of_lone (not_exists.mp hlow), not_exists.mp hlow⟩

theorem distinct_merged (hhigh : Distinct high) (hlow : Distinct low) :
    Distinct (p.merged [high, low]) where
  keys := hp.nodup_merged hhigh.keys hlow.keys
  below name sub h := by
    by_cases hn : ∃ a, lookup? name high = some (.dict a)
    · obtain ⟨a, ha⟩ := hn
      obtain ⟨hkept, -⟩ | ⟨b, hb, hmerged⟩ := section_layered hp low hhigh ha
      · exact hhigh.below name sub (ha.trans (hkept.symm.trans h))
      · obtain rfl := Json.dict.inj (Option.some.inj (h.symm.trans hmerged))
        exact hp.nodup_merged (hhigh.below name a ha) (hlow.below name b hb)
    · rw [lookup?_layered hp low hhigh (not_exists.mp hn), Option.or_eq_some_iff] at h
      obtain h | ⟨-, h⟩ := h
      · exact (hn ⟨sub, h⟩).elim
      · exact hlow.below name sub h

/-- The upper source decides whether a section is a table, if it has the section. -/
theorem isSection_layered_iff (hhigh : Distinct high) :
    IsSection name (p.merged [high, low])
      ↔ IsSection name high ∧ (lookup? name high = none → IsSection name low) := by
  by_cases hn : ∃ a, lookup? name high = some (.dict a)
  · obtain ⟨a, ha⟩ := hn
    obtain ⟨hkept, -⟩ | ⟨b, -, hmerged⟩ := section_layered hp low hhigh ha
    · simp [IsSection, hkept, ha]
    · simp [IsSection, hmerged, ha]
  · have hor := lookup?_layered hp low hhigh (not_exists.mp hn)
    cases hv : lookup? name high with
    | none => simp [IsSection, hor, hv]
    | some v => simp [IsSection, hor, hv]

/-- A key of a section comes from the upper source, if it is there, and else from the lower one. -/
theorem gives_layered (low : Pairs) (hhigh : Distinct high) (hsection : IsSection name high)
    (hscalar : ∀ sub, gives name key high ≠ some (.dict sub)) :
    gives name key (p.merged [high, low]) = (gives name key high).or (gives name key low) := by
  cases hn : lookup? name high with
  | none =>
    have hlow : lookup? name (p.merged [high, low]) = lookup? name low := by
      rw [hp.lookup?_merged low name hhigh.keys, hn, onTop]
    simp only [gives, hlow, hn, Option.bind_none, Option.none_or]
  | some v =>
    obtain ⟨a, rfl⟩ := hsection v hn
    rw [gives_of_dict hn] at hscalar ⊢
    obtain ⟨hkept, hlow⟩ | ⟨b, hb, hmerged⟩ := section_layered hp low hhigh hn
    · rw [gives_of_dict hkept, gives_of_scalar hlow, Option.or_none]
    · rw [gives_of_dict hmerged, gives_of_dict hb,
        hp.lookup?_merged b key (hhigh.below name a hn), onTop_of_scalar hscalar]

/-- A table of the upper source under a key of a section shows through as a table. -/
theorem exists_gives_layered_eq_dict (low : Pairs) (hhigh : Distinct high)
    (h : gives name key high = some (.dict a)) :
    ∃ sub, gives name key (p.merged [high, low]) = some (.dict sub) := by
  obtain ⟨v, hn, hv⟩ := Option.bind_eq_some_iff.mp h
  cases v with
  | dict b =>
    have hkey : lookup? key b = some (.dict a) := hv
    obtain ⟨hkept, -⟩ | ⟨c, -, hmerged⟩ := section_layered hp low hhigh hn
    · exact ⟨a, by rw [gives_of_dict hkept, hkey]⟩
    · obtain ⟨sub, hsub⟩ := exists_over_eq_dict (p := p) a (lookup? key c)
      refine ⟨sub, ?_⟩
      rw [gives_of_dict hmerged, hp.lookup?_merged c key (hhigh.below name b hn), hkey, hsub]
  | _ => cases hv

end Package
end TagLint
