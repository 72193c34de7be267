import TagLint.Proofs.Settings.Layers
import TagLint.Settings.Lax

/-! The package that the program runs with behaves as it relies on. -/
namespace TagLint
open Text Json Settings

variable {α β : Type} {a : α} {b : β} {x : Checked α} {y : Checked β} {step : Step} {key : Text}
  {v : Json} {pairs low high : Pairs} {names : VariableNames} {vars : List (Text × Text)}

/-! ## Checks -/

theorem Checked.both_eq_ok_iff : x.both y = .ok (a, b) ↔ x = .ok a ∧ y = .ok b := by
  cases x with
  | error is => simp [Checked.both]
  | ok a' =>
    cases y with
    | error is => simp [Checked.both]
    | ok b' => simp [Checked.both]

theorem Checked.under_eq_ok_iff : x.under step = .ok a ↔ x = .ok a := by
  cases x with
  | error is => simp [Checked.under]
  | ok a' => simp [Checked.under]

namespace Setting

theorem atLeast_int {least n : Int} (h : least ≤ n) : atLeast least (.int n) = .ok n :=
  if_neg (by omega)

theorem exists_oneOf {words : List (Text × α)} {t : Text} (h : t ∈ words.map Prod.fst) :
    ∃ a, oneOf words (.text t) = .ok a := by
  obtain ⟨word, hword, rfl⟩ := List.mem_map.mp h
  have hfound : (words.find? (·.1 = word.1)).isSome :=
    List.find?_isSome.mpr ⟨word, hword, by simp⟩
  obtain ⟨⟨t', a⟩, hfound⟩ := Option.isSome_iff_exists.mp hfound
  exact ⟨a, by rw [oneOf, hfound]⟩

theorem field_eq_ok_iff {check : Json → Checked α} {default : α} :
    field key check default pairs = .ok a ↔ Taken check default (lookup? key pairs) a := by
  unfold field Taken
  cases lookup? key pairs with
  | none => simp [eq_comm]
  | some v => exact Checked.under_eq_ok_iff

theorem object_eq_ok_iff {name : Text} {check : Pairs → Checked α} :
    object name check v = .ok a ↔ ∃ sub, v = .dict sub ∧ check sub = .ok a := by
  cases v <;> simp [object, Checked.fail]

theorem onlyKnown_eq_ok_iff {known : List Text} :
    onlyKnown known pairs = .ok () ↔ ∀ key ∈ pairs.map Prod.fst, key ∈ known := by
  unfold onlyKnown
  split
  · next hnone => simpa using hnone
  · next unknown hne =>
    have hsome : ∃ p ∈ pairs, p.1 ∉ known := by
      obtain ⟨p, hp⟩ := List.exists_mem_of_ne_nil _ hne
      exact ⟨p, by simpa using hp⟩
    simpa using hsome

end Setting

namespace Environment

/-! ## Tables over tables -/

theorem onTop_some (old : Option Json) (v : Json) :
    Package.lax.onTop (some v) old = some (laid old v) := by
  cases v with
  | dict high =>
    cases old with
    | none => rfl
    | some w => cases w <;> rfl
  | _ => rfl

theorem lookup?_overlay (low : Pairs) (key : Text) (h : (high.map Prod.fst).Nodup) :
    lookup? key (overlay low high) = Package.lax.onTop (lookup? key high) (lookup? key low) := by
  induction high generalizing low with
  | nil => rfl
  | cons p high ih =>
    obtain ⟨hp, hhigh⟩ := List.nodup_cons.mp h
    rw [overlay, ih _ hhigh, lookup?_put, lookup?_cons]
    by_cases hkey : p.1 = key
    · subst hkey
      rw [lookup?_eq_none_iff.mpr hp, if_pos rfl, if_pos rfl, onTop_some]
      rfl
    · rw [if_neg hkey, if_neg hkey]

theorem nodup_overlay (h : (low.map Prod.fst).Nodup) :
    ((overlay low high).map Prod.fst).Nodup := by
  induction high generalizing low with
  | nil => exact h
  | cons p high ih => exact ih (nodup_keys_put h)

/-! ## Variables -/

theorem nodup_respelled (keys : List (Text × Bool)) (pairs : Pairs) :
    ((respelled keys pairs).map Prod.fst).Nodup := by
  let step (kept : Pairs) (p : Text × Json) : Pairs := put (spelling keys p.1) p.2 kept
  have hfold : ∀ kept : Pairs, (kept.map Prod.fst).Nodup →
      ((pairs.foldl step kept).map Prod.fst).Nodup := by
    induction pairs with
    | nil => exact fun _ h => h
    | cons p pairs ih => exact fun kept h => ih _ (nodup_keys_put h)
  exact hfold [] List.nodup_nil

theorem nodup_section? {start cut : Text} {keys : List (Text × Bool)}
    (h : section? start cut keys vars = some (some (.dict pairs))) :
    (pairs.map Prod.fst).Nodup := by
  obtain ⟨own, -, h⟩ := Option.bind_eq_some_iff.mp h
  split at h
  · split at h
    · cases h
    · obtain rfl : respelled keys own = pairs := by simpa using h
      exact nodup_respelled keys own
  · obtain ⟨v, -, h⟩ := Option.bind_eq_some_iff.mp h
    cases v with
    | dict whole =>
      obtain rfl : respelled keys (overlay whole own) = pairs := by simpa using h
      exact nodup_respelled keys _
    | _ => simp at h

theorem filterMapM_eq_some {h : α → Option (Option (Text × Json))} {l : List α}
    (hout : l.filterMapM h = some pairs) : pairs = l.filterMap fun a => (h a).join := by
  induction l generalizing pairs with
  | nil =>
    obtain rfl : [] = pairs := Option.some.inj hout
    rfl
  | cons a l ih =>
    rw [List.filterMapM_cons] at hout
    obtain ⟨x, hx, hout⟩ := Option.bind_eq_some_iff.mp hout
    cases x with
    | none => rw [ih hout, List.filterMap_cons_none (by rw [hx]; rfl)]
    | some p =>
      obtain ⟨rest, hrest, heq⟩ := Option.bind_eq_some_iff.mp hout
      obtain rfl := Option.some.inj heq
      rw [ih hrest, List.filterMap_cons_some (by rw [hx]; rfl)]

/-- The entry of a setting outside of the sections. -/
def singlePair? (start : Text) (vars : List (Text × Text)) (name : Text) : Option (Text × Json) :=
  (value? (start ++ name) vars).map fun t => (name, .text t)

/-- The entry of a section, if its documents can be read. -/
def sectionPair? (start cut : Text) (vars : List (Text × Text))
    (entry : Text × List (Text × Bool)) : Option (Option (Text × Json)) :=
  (section? (start ++ entry.1) cut entry.2 vars).map fun found => found.map (entry.1, ·)

theorem singlePair?_eq_some {start name : Text} {p : Text × Json}
    (h : singlePair? start vars name = some p) : p.1 = name ∧ ∀ sub, p.2 ≠ .dict sub := by
  obtain ⟨t, -, rfl⟩ := Option.map_eq_some_iff.mp h
  exact ⟨rfl, fun _ => Json.noConfusion⟩

theorem sectionPair?_eq_some {start cut : Text} {entry : Text × List (Text × Bool)}
    {p : Text × Json} (h : (sectionPair? start cut vars entry).join = some p) :
    p.1 = entry.1 ∧ section? (start ++ entry.1) cut entry.2 vars = some (some p.2) := by
  obtain ⟨found, hfound, hp⟩ := Option.map_eq_some_iff.mp (Option.join_eq_some_iff.mp h)
  obtain ⟨v, rfl, rfl⟩ := Option.map_eq_some_iff.mp hp
  exact ⟨rfl, hfound⟩

/-- The environment gives a table of single settings and sections. -/
theorem settings?_eq_some (h : settings? names vars = some pairs) :
    pairs = names.single.filterMap (singlePair? names.start (folded vars))
      ++ names.sections.filterMap fun entry =>
        (sectionPair? names.start names.cut (folded vars) entry).join := by
  obtain ⟨sections, hsections, hpairs⟩ := Option.bind_eq_some_iff.mp h
  rw [← filterMapM_eq_some (h := sectionPair? names.start names.cut (folded vars)) hsections]
  exact (Option.some.inj hpairs).symm

theorem distinct_settings? (hnames : (names.single ++ names.sections.map Prod.fst).Nodup)
    (h : settings? names vars = some pairs) : Distinct pairs := by
  have hpairs := settings?_eq_some h
  constructor
  · have hsingleKey : ∀ name p, singlePair? names.start (folded vars) name = some p →
        p.1 = id name := fun _ _ hp => (singlePair?_eq_some hp).1
    have hsectionKey : ∀ entry p,
        (sectionPair? names.start names.cut (folded vars) entry).join = some p →
          p.1 = entry.1 := fun _ _ hp => (sectionPair?_eq_some hp).1
    have hsingle := keys_filterMap_sublist (l := names.single) hsingleKey
    have hsections := keys_filterMap_sublist (l := names.sections) hsectionKey
    rw [List.map_id] at hsingle
    rw [hpairs, List.map_append]
    exact (hsingle.append hsections).nodup hnames
  · intro name sub hsub
    have hmem := mem_of_lookup? hsub
    rw [hpairs, List.mem_append, List.mem_filterMap, List.mem_filterMap] at hmem
    obtain ⟨_, -, hp⟩ | ⟨entry, -, hp⟩ := hmem
    · exact ((singlePair?_eq_some hp).2 sub rfl).elim
    · exact nodup_section? (sectionPair?_eq_some hp).2

end Environment

namespace Package

theorem lawful_lax : Package.lax.Lawful where
  bool_bool _ := rfl
  atLeast_int := Setting.atLeast_int
  exists_oneOf := Setting.exists_oneOf
  bool_dict _ _ h := nomatch h
  atLeast_dict _ _ _ h := nomatch h
  text_dict _ _ h := nomatch h
  texts_dict _ _ h := nomatch h
  oneOf_dict _ _ _ h := nomatch h
  field := Setting.field_eq_ok_iff
  object := Setting.object_eq_ok_iff
  both := Checked.both_eq_ok_iff
  onlyKnown := Setting.onlyKnown_eq_ok_iff
  distinct_variables := Environment.distinct_settings?
  merged_one _ := rfl
  merged_cons _ _ _ := rfl
  nodup_merged _ := Environment.nodup_overlay
  lookup?_merged low key := Environment.lookup?_overlay low key

end Package
end TagLint
