import Mathlib.Data.List.Induction
import Mathlib.Data.List.Nodup
import TagLint.Text.Basic

/-! Dictionaries as lists of pairs, in the order in which their keys were first set. -/
namespace TagLint

variable {α : Type} {l : List α} {x : α} {k key : Text}

/-! ## Finding by key -/

/-- Under different keys, each thing is found under its own. -/
theorem find?_of_mem (f : α → Text) (hnodup : (l.map f).Nodup) (hx : x ∈ l) :
    l.find? (f · = f x) = some x := by
  induction l with
  | nil => simp at hx
  | cons y l ih =>
    rw [List.map_cons, List.nodup_cons] at hnodup
    rcases List.mem_cons.mp hx with rfl | hx
    · simp
    · have hne : f y ≠ f x := by
        intro heq
        exact hnodup.1 (heq ▸ List.mem_map_of_mem hx)
      simp [hne, ih hnodup.2 hx]

/-- What is dropped under one key is not missed under another. -/
theorem find?_filter_of_ne (f : α → Text) (h : k ≠ key) (l : List α) :
    (l.filter (f · ≠ k)).find? (f · = key) = l.find? (f · = key) := by
  rw [List.find?_filter]
  congr 1
  funext x
  by_cases hx : f x = key
  · simp [hx, Ne.symm h]
  · simp [hx]

/-! ## In the order in which they come first -/

section FirstCome

variable [BEq α] [LawfulBEq α]

theorem eraseDups_concat (l : List α) (x : α) :
    (l ++ [x]).eraseDups = l.eraseDups ++ if x ∈ l then [] else [x] := by
  rw [List.eraseDups_append]
  by_cases hx : x ∈ l <;> simp [List.removeAll, hx, List.eraseDups_cons]

/-- Things without repetitions stand in the order in which they first came. -/
theorem pairwise_eraseDups (l : List α) :
    l.eraseDups.Pairwise fun x y => l.idxOf x < l.idxOf y := by
  induction l using List.reverseRecOn with
  | nil => simp
  | append_singleton l x ih =>
    have hidx : ∀ y ∈ l, (l ++ [x]).idxOf y = l.idxOf y := fun y hy => List.idxOf_append_of_mem hy
    rw [eraseDups_concat, List.pairwise_append]
    refine ⟨?_, ?_, ?_⟩
    · refine ih.imp_of_mem fun hy hz hlt => ?_
      rw [hidx _ (List.mem_eraseDups.mp hy), hidx _ (List.mem_eraseDups.mp hz)]
      exact hlt
    · split <;> simp
    · intro y hy z hz
      split at hz
      · simp at hz
      · rename_i hx
        obtain rfl := List.mem_singleton.mp hz
        have hy := List.mem_eraseDups.mp hy
        rw [hidx y hy, List.idxOf_append_of_notMem hx]
        exact Nat.lt_of_lt_of_le (List.idxOf_lt_length_of_mem hy) (Nat.le_add_right _ _)

theorem nodup_eraseDups (l : List α) : l.eraseDups.Nodup := by
  refine (pairwise_eraseDups l).imp ?_
  rintro x y hlt rfl
  exact Nat.lt_irrefl _ hlt

omit [BEq α] [LawfulBEq α] in
theorem filter_eq_singleton [DecidableEq α] {l : List α} (hnodup : l.Nodup) {a : α} (ha : a ∈ l) :
    l.filter (· = a) = [a] := by
  rw [List.filter_eq, List.count_eq_one_of_mem hnodup ha]
  rfl

end FirstCome

namespace Dict

def get? (k : Text) (d : List (Text × α)) : Option α := (d.find? (·.1 = k)).map Prod.snd

/-- A key that is there keeps its place. -/
def set (k : Text) (x : α) : List (Text × α) → List (Text × α)
  | [] => [(k, x)]
  | p :: d => if p.1 = k then (k, x) :: d else p :: set k x d

def pop (k : Text) (d : List (Text × α)) : List (Text × α) := d.filter (·.1 ≠ k)

theorem get?_cons (p : Text × α) (d : List (Text × α)) :
    get? key (p :: d) = if p.1 = key then some p.2 else get? key d := by
  by_cases h : p.1 = key
  · simp [get?, h]
  · simp [get?, h]

theorem get?_append (k : Text) (d e : List (Text × α)) :
    get? k (d ++ e) = (get? k d).or (get? k e) := by
  simp [get?, List.find?_append, Option.map_or]

theorem get?_set_self (k : Text) (x : α) (d : List (Text × α)) : get? k (set k x d) = some x := by
  induction d with
  | nil => simp [set, get?]
  | cons p d ih =>
    rw [set]
    by_cases hp : p.1 = k
    · simp [hp, get?]
    · rw [if_neg hp]
      simpa [get?, hp] using ih

theorem get?_set_of_ne (h : k ≠ key) (x : α) (d : List (Text × α)) :
    get? key (set k x d) = get? key d := by
  induction d with
  | nil => simp [set, get?, h]
  | cons p d ih =>
    rw [set]
    by_cases hp : p.1 = k
    · simp [hp, get?, h]
    · rw [if_neg hp]
      by_cases hkey : p.1 = key
      · simp [get?, hkey]
      · simpa [get?, hkey] using ih

theorem get?_eq_none_iff {d : List (Text × α)} : get? k d = none ↔ k ∉ d.map Prod.fst := by
  rw [get?, Option.map_eq_none_iff, List.find?_eq_none]
  constructor
  · intro h hk
    obtain ⟨p, hp, hpk⟩ := List.mem_map.mp hk
    exact h p hp (by simpa using hpk)
  · intro h p hp hpk
    exact h (List.mem_map.mpr ⟨p, hp, by simpa using hpk⟩)

theorem nodup_keys_set {x : α} {d : List (Text × α)} (h : (d.map Prod.fst).Nodup) :
    ((set k x d).map Prod.fst).Nodup := by
  induction d with
  | nil => simp [set]
  | cons p d ih =>
    obtain ⟨hp, hd⟩ := List.nodup_cons.mp h
    rw [set]
    split
    · next hk => exact List.nodup_cons.mpr ⟨hk ▸ hp, hd⟩
    · next hk =>
      refine List.nodup_cons.mpr ⟨?_, ih hd⟩
      rw [← get?_eq_none_iff, get?_set_of_ne (Ne.symm hk), get?_eq_none_iff]
      exact hp

theorem get?_pop_self (k : Text) (d : List (Text × α)) : get? k (pop k d) = none := by
  simp [get?, pop]

theorem get?_pop_of_ne (h : k ≠ key) (d : List (Text × α)) : get? key (pop k d) = get? key d := by
  rw [get?, pop, find?_filter_of_ne Prod.fst h]
  rfl

/-! ## Dictionaries that hold what a function says -/

theorem get?_map (g : Text → α) (keys : List Text) :
    get? k (keys.map fun key => (key, g key)) = if k ∈ keys then some (g k) else none := by
  induction keys with
  | nil => rfl
  | cons key keys ih =>
    rw [List.map_cons, get?_cons, ih]
    by_cases hkey : key = k
    · simp [hkey]
    · simp [hkey, Ne.symm hkey]

theorem set_map {keys : List Text} (hnodup : keys.Nodup) (g : Text → α) (k : Text) (x : α) :
    set k x (keys.map fun key => (key, g key))
      = (keys ++ if k ∈ keys then [] else [k]).map fun key =>
        (key, if key = k then x else g key) := by
  induction keys with
  | nil => simp [set]
  | cons key keys ih =>
    obtain ⟨hkey, hnodup⟩ := List.nodup_cons.mp hnodup
    rw [List.map_cons, set]
    by_cases hk : key = k
    · subst hk
      have hrest : ∀ other ∈ keys,
          (other, g other) = (other, if other = key then x else g other) := by
        intro other hother
        rw [if_neg (ne_of_mem_of_not_mem hother hkey)]
      simp [List.map_congr_left hrest]
    · rw [if_neg hk, ih hnodup]
      simp [hk, Ne.symm hk]

end Dict
end TagLint
