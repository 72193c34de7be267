import Mathlib.Data.List.Basic
import TagLint.Proofs.Registry.Offers
import TagLint.Proofs.Registry.Vocabulary

/-! Keys that are offered one after another: the first offer that can be accepted decides the class,
the last one that is accepted decides the spelling, and the same offers again change nothing. -/
namespace TagLint
open Text Offers

variable {v v' : Vocabulary} {folded : Text} {given : ClassGiven} {c : KeyClass} {row : KeyRow}
  {rows rows' : List KeyRow} {item : Text × ClassGiven} {items : List (Text × ClassGiven)}
  {e : VocabularyError} {keys : List Text}

/-- The class that is named, when keys may be added with it. -/
def ClassGiven.valid? : ClassGiven → Option KeyClass
  | .known .unknown => none
  | .known c => some c
  | .other _ => none

theorem ClassGiven.valid?_eq_some_iff :
    given.valid? = some c ↔ given = .known c ∧ c ≠ .unknown := by
  cases given with
  | other shown => simp [valid?]
  | known d => cases d <;> cases c <;> simp [valid?]

namespace Vocabulary

/-- The class that an offer asks for one key. -/
def asked? (folded : Text) (item : Text × ClassGiven) : Option KeyClass :=
  if trim item.1 ≠ [] ∧ foldKey item.1 = folded then item.2.valid? else none

theorem asked?_eq_some_iff : asked? folded item = some c ↔
    trim item.1 ≠ [] ∧ foldKey item.1 = folded ∧ item.2 = .known c ∧ c ≠ .unknown := by
  rw [asked?, Option.ite_none_right_eq_some, ClassGiven.valid?_eq_some_iff, and_assoc]

theorem asked?_of_ne (h : foldKey item.1 ≠ folded) :
    asked? folded item = none := by simp [asked?, h]

def addItem (v : Vocabulary) (item : Text × ClassGiven) : Except VocabularyError Vocabulary :=
  v.addKey item.1 item.2

/-- The class that was added for a key. -/
def classAt (v : Vocabulary) (folded : Text) : Option KeyClass :=
  (v.added? folded).map KeyRow.keyClass

/-- The spelling that was added for a key. -/
def nameAt (v : Vocabulary) (folded : Text) : Option Text := (v.added? folded).map KeyRow.name

theorem take_eq_step (v : Vocabulary) (item : Text × ClassGiven) :
    take addItem v item = v.step (.add item.1 item.2) := by
  rw [take, addItem, step, apply]
  cases v.addKey item.1 item.2 <;> rfl

theorem takeAll_eq_after (v : Vocabulary) (items : List (Text × ClassGiven)) :
    takeAll addItem v items = v.after (items.map fun item => .add item.1 item.2) := by
  rw [takeAll, after, List.foldl_map, funext₂ take_eq_step]

theorem Sound.takeAll (h : Sound v) (items : List (Text × ClassGiven)) :
    Sound (takeAll addItem v items) := by
  rw [takeAll_eq_after]
  exact h.after _

/-! ## One offer -/

theorem added?_put_self (row : KeyRow) (rows : List KeyRow) :
    added? ⟨put row rows⟩ row.folded = some row := find?_put_self row rows

theorem added?_put_of_ne (h : row.folded ≠ folded) (rows : List KeyRow) :
    added? ⟨put row rows⟩ folded = added? ⟨rows⟩ folded := find?_put_of_ne h rows

/-- An accepted offer asks for the class that the key has, if it has one, and puts the key under
it. -/
theorem asked?_of_ok (h : v.addItem item = .ok v') : isBuiltin (foldKey item.1) = false ∧
    ∃ c, asked? (foldKey item.1) item = some c ∧ (v.classAt (foldKey item.1)).or (some c) = some c ∧
      v' = ⟨put ⟨foldKey item.1, trim item.1, c⟩ v.added⟩ := by
  obtain ⟨hblank, hfresh, c, hgiven, hc, hsame, rfl⟩ := addKey_eq_ok_iff.mp h
  refine ⟨hfresh, c, asked?_eq_some_iff.mpr ⟨hblank, rfl, hgiven, hc⟩, ?_, rfl⟩
  cases hrow : v.added? (foldKey item.1) with
  | none => simp [classAt, hrow]
  | some row => simp [classAt, hrow, hsame row hrow]

/-- An offer is refused where the key has another class. -/
theorem classAt_of_refused (hfresh : isBuiltin folded = false) (h : v.addItem item = .error e)
    (hasked : asked? folded item = some c) : ∃ c', v.classAt folded = some c' ∧ c' ≠ c := by
  obtain ⟨hblank, rfl, hgiven, hc⟩ := asked?_eq_some_iff.mp hasked
  rw [addItem, hgiven, addKey_known hblank hfresh hc] at h
  cases hrow : v.added? (foldKey item.1) with
  | none => simp [hrow] at h
  | some row =>
    refine ⟨row.keyClass, by simp [classAt, hrow], ?_⟩
    intro heq
    simp [hrow, heq] at h

/-- A key keeps the class that it has; else the offer decides. -/
theorem classAt_take (hfresh : isBuiltin folded = false) (v : Vocabulary)
    (item : Text × ClassGiven) :
    (take addItem v item).classAt folded = (v.classAt folded).or (asked? folded item) := by
  cases h : v.addItem item with
  | ok v' =>
    rw [take_of_ok h]
    obtain ⟨-, c, hasked, hclass, rfl⟩ := asked?_of_ok h
    by_cases hkey : foldKey item.1 = folded
    · subst folded
      rw [hasked, hclass, classAt, added?_put_self ⟨foldKey item.1, trim item.1, c⟩]
      rfl
    · rw [asked?_of_ne hkey, Option.or_none, classAt, added?_put_of_ne hkey, classAt]
  | error e =>
    rw [take_of_refused h]
    cases hasked : asked? folded item with
    | none => rw [Option.or_none]
    | some c =>
      obtain ⟨c', hclass, -⟩ := classAt_of_refused hfresh h hasked
      rw [hclass]
      rfl

/-! ## All offers -/

/-- The first offer that asks for a class decides it. -/
theorem classAt_takeAll (hfresh : isBuiltin folded = false) (v : Vocabulary)
    (items : List (Text × ClassGiven)) :
    (takeAll addItem v items).classAt folded
      = (v.classAt folded).or (items.findSome? (asked? folded)) :=
  first_stays (classAt · folded) (asked? folded) (classAt_take hfresh) v items

/-- Accepted are the offers that ask for the class which the key has in the end. -/
theorem filter_accepted (hfresh : isBuiltin folded = false) :
    (accepted addItem v items).filter (foldKey ·.1 = folded) = items.filter fun item =>
      (asked? folded item).isSome ∧
      asked? folded item = (takeAll addItem v items).classAt folded := by
  induction items generalizing v with
  | nil => rfl
  | cons item items ih =>
    have hfinal : (takeAll addItem v (item :: items)).classAt folded =
        ((v.classAt folded).or (asked? folded item)).or (items.findSome? (asked? folded)) := by
      rw [takeAll_cons, classAt_takeAll hfresh, classAt_take hfresh]
    cases h : v.addItem item with
    | ok v' =>
      rw [accepted_of_ok h]
      obtain ⟨-, c, hasked, hclass, -⟩ := asked?_of_ok h
      by_cases hkey : foldKey item.1 = folded
      · subst folded
        rw [hasked, hclass, Option.some_or] at hfinal
        rw [List.filter_cons_of_pos (by simp), List.filter_cons_of_pos (by simp [hasked, hfinal]),
          ih, takeAll_cons, take_of_ok h]
      · rw [List.filter_cons_of_neg (by simpa using hkey),
          List.filter_cons_of_neg (by simp [asked?_of_ne hkey]), ih, takeAll_cons, take_of_ok h]
    | error e =>
      rw [accepted_of_refused h, ih]
      cases hasked : asked? folded item with
      | none => rw [List.filter_cons_of_neg (by simp [hasked]), takeAll_cons, take_of_refused h]
      | some c =>
        obtain ⟨c', hbefore, hne⟩ := classAt_of_refused hfresh h hasked
        rw [hbefore, Option.some_or, Option.some_or] at hfinal
        rw [List.filter_cons_of_neg (by simpa [hasked, hfinal] using Ne.symm hne), takeAll_cons,
          take_of_refused h]

/-- The spelling of the last offer for a key that is accepted. -/
def lastSpelling? (v : Vocabulary) (items : List (Text × ClassGiven)) (folded : Text) :
    Option Text :=
  ((accepted addItem v items).filter (foldKey ·.1 = folded)).getLast?.map (trim ·.1)

theorem nameAt_takeAll :
    (takeAll addItem v items).nameAt folded
      = (v.lastSpelling? items folded).or (v.nameAt folded) := by
  induction items generalizing v with
  | nil => rfl
  | cons item items ih =>
    rw [takeAll_cons, lastSpelling?]
    cases h : v.addItem item with
    | ok v' =>
      rw [take_of_ok h, accepted_of_ok h, ih, lastSpelling?]
      obtain ⟨-, c, -, -, rfl⟩ := asked?_of_ok h
      by_cases hkey : foldKey item.1 = folded
      · subst folded
        rw [nameAt, added?_put_self ⟨foldKey item.1, trim item.1, c⟩,
          List.filter_cons_of_pos (by simp), List.getLast?_cons]
        cases ((accepted addItem _ items).filter (foldKey ·.1 = foldKey item.1)).getLast? <;> rfl
      · rw [nameAt, added?_put_of_ne hkey, List.filter_cons_of_neg (by simpa using hkey), nameAt]
    | error e => rw [take_of_refused h, accepted_of_refused h, ih, lastSpelling?]

/-! ## The same offers again -/

theorem map_folded_put (h : row.folded ∈ rows.map KeyRow.folded) :
    (put row rows).map KeyRow.folded = rows.map KeyRow.folded := by
  induction rows with
  | nil => simp at h
  | cons r rows ih =>
    rw [put]
    split
    · rename_i heq
      rw [List.map_cons, List.map_cons, heq]
    · rename_i hne
      rcases List.mem_cons.mp h with h | h
      · exact absurd h.symm hne
      · rw [List.map_cons, List.map_cons, ih h]

theorem folded_of_added? (h : v.added? folded = some row) : row.folded = folded := by
  simpa using List.find?_some h

theorem mem_folded_of_classAt (h : v.classAt folded = some c) :
    folded ∈ v.added.map KeyRow.folded := by
  obtain ⟨row, hrow, -⟩ := Option.map_eq_some_iff.mp h
  exact folded_of_added? hrow ▸ List.mem_map_of_mem (List.mem_of_find?_eq_some hrow)

/-- Offers for keys that are there add no rows. -/
theorem map_folded_takeAll (h : ∀ item ∈ items, isBuiltin (foldKey item.1) = false →
      (asked? (foldKey item.1) item).isSome → foldKey item.1 ∈ v.added.map KeyRow.folded) :
    (takeAll addItem v items).added.map KeyRow.folded = v.added.map KeyRow.folded := by
  induction items generalizing v with
  | nil => rfl
  | cons item items ih =>
    obtain ⟨hitem, hitems⟩ := List.forall_mem_cons.mp h
    rw [takeAll_cons]
    cases hadd : v.addItem item with
    | error e =>
      rw [take_of_refused hadd]
      exact ih hitems
    | ok v' =>
      rw [take_of_ok hadd]
      obtain ⟨hfresh, c, hasked, -, rfl⟩ := asked?_of_ok hadd
      have hkeys : (put ⟨foldKey item.1, trim item.1, c⟩ v.added).map KeyRow.folded
          = v.added.map KeyRow.folded :=
        map_folded_put (hitem hfresh (by simp [hasked]))
      rw [ih]
      · exact hkeys
      · rw [hkeys]
        exact hitems

theorem filterMap_find? (hnodup : (rows.map KeyRow.folded).Nodup) :
    ((rows.map KeyRow.folded).filterMap fun k => rows.find? (·.folded = k)) = rows := by
  have hfound : ∀ row ∈ rows, rows.find? (·.folded = row.folded) = some row :=
    fun row hrow => find?_of_mem KeyRow.folded hnodup hrow
  rw [List.filterMap_map]
  exact (List.filterMap_congr hfound).trans List.filterMap_some

/-- Rows under different keys are known by their keys and by what is found under each. -/
theorem rows_ext (hnodup : (rows.map KeyRow.folded).Nodup)
    (hkeys : rows'.map KeyRow.folded = rows.map KeyRow.folded)
    (hfind : ∀ k ∈ rows.map KeyRow.folded, rows'.find? (·.folded = k) = rows.find? (·.folded = k)) :
    rows' = rows :=
  calc
    rows' = (rows'.map KeyRow.folded).filterMap fun k => rows'.find? (·.folded = k) :=
      (filterMap_find? (by rwa [hkeys])).symm
    _ = (rows.map KeyRow.folded).filterMap fun k => rows.find? (·.folded = k) := by
      rw [hkeys]
      exact List.filterMap_congr hfind
    _ = rows := filterMap_find? hnodup

theorem added?_eq : v.added? folded =
    (v.classAt folded).bind fun c => (v.nameAt folded).map fun name => ⟨folded, name, c⟩ := by
  cases hrow : v.added? folded with
  | none => simp [classAt, hrow]
  | some row =>
    obtain rfl := folded_of_added? hrow
    simp [classAt, nameAt, hrow]

theorem keys_again (v : Vocabulary) (items : List (Text × ClassGiven)) :
    (takeAll addItem (takeAll addItem v items) items).added.map KeyRow.folded
      = (takeAll addItem v items).added.map KeyRow.folded := by
  apply map_folded_takeAll
  intro item hitem hfresh hasked
  have hfound : (items.findSome? (asked? (foldKey item.1))).isSome := by
    rw [List.findSome?_isSome_iff]
    exact ⟨item, hitem, hasked⟩
  have hclass : ((takeAll addItem v items).classAt (foldKey item.1)).isSome := by
    rw [classAt_takeAll hfresh, Option.isSome_or, hfound, Bool.or_true]
  obtain ⟨c, hc⟩ := Option.isSome_iff_exists.mp hclass
  exact mem_folded_of_classAt hc

theorem classAt_again (hfresh : isBuiltin folded = false) (v : Vocabulary)
    (items : List (Text × ClassGiven)) :
    (takeAll addItem (takeAll addItem v items) items).classAt folded
      = (takeAll addItem v items).classAt folded := by
  rw [classAt_takeAll hfresh, classAt_takeAll hfresh]
  cases v.classAt folded <;> cases items.findSome? (asked? folded) <;> rfl

theorem nameAt_again (hfresh : isBuiltin folded = false) (v : Vocabulary)
    (items : List (Text × ClassGiven)) :
    (takeAll addItem (takeAll addItem v items) items).nameAt folded
      = (takeAll addItem v items).nameAt folded := by
  -- The same class in the end makes the same offers accepted, so the last of them is the same.
  have hlast : (takeAll addItem v items).lastSpelling? items folded
      = v.lastSpelling? items folded := by
    rw [lastSpelling?, filter_accepted hfresh, classAt_again hfresh, ← filter_accepted hfresh,
      lastSpelling?]
  rw [nameAt_takeAll, hlast, nameAt_takeAll]
  cases v.lastSpelling? items folded <;> rfl

theorem takeAll_takeAll (h : Sound v) (items : List (Text × ClassGiven)) :
    takeAll addItem (takeAll addItem v items) items = takeAll addItem v items := by
  have hsound := h.takeAll items
  have hrows : ∀ k ∈ (takeAll addItem v items).added.map KeyRow.folded,
      (takeAll addItem (takeAll addItem v items) items).added? k
        = (takeAll addItem v items).added? k := by
    intro k hk
    obtain ⟨row, hrow, rfl⟩ := List.mem_map.mp hk
    have hfresh := hsound.fresh row hrow
    rw [added?_eq, classAt_again hfresh, nameAt_again hfresh, ← added?_eq]
  exact congrArg Vocabulary.mk (rows_ext hsound.nodup (keys_again v items) hrows)

/-! ## Taking back what was accepted -/

theorem filter_put (h : row.folded ∈ keys) (rows : List KeyRow) :
    (put row rows).filter (·.folded ∉ keys) = rows.filter (·.folded ∉ keys) := by
  induction rows with
  | nil => simp [put, h]
  | cons r rows ih =>
    rw [put]
    split
    · rename_i heq
      rw [List.filter_cons_of_neg (by simp [h]), List.filter_cons_of_neg (by simp [heq, h])]
    · rw [List.filter_cons, List.filter_cons, ih]

/-- Where no offer is accepted, the rows stay. -/
theorem filter_takeAll (h : ∀ item ∈ accepted addItem v items, foldKey item.1 ∈ keys) :
    (takeAll addItem v items).added.filter (·.folded ∉ keys)
      = v.added.filter (·.folded ∉ keys) := by
  refine view_stays (fun v : Vocabulary => v.added.filter (·.folded ∉ keys))
    (fun item : Text × ClassGiven => foldKey item.1 ∈ keys) ?_ h
  intro v item v' hadd hkey
  obtain ⟨-, c, -, -, rfl⟩ := asked?_of_ok hadd
  exact filter_put hkey v.added

theorem foldl_dropKey (keys : List Text) (v : Vocabulary) :
    keys.foldl Vocabulary.dropKey v = ⟨v.added.filter (·.folded ∉ keys.map foldKey)⟩ := by
  induction keys generalizing v with
  | nil => exact congrArg Vocabulary.mk (List.filter_eq_self.mpr (by simp)).symm
  | cons key keys ih =>
    rw [List.foldl_cons, ih, dropKey, List.filter_filter]
    congr 1
    apply List.filter_congr
    intro row _
    by_cases hkey : row.folded = foldKey key <;> simp [hkey]

/-- Whether one of the offers asks for the class that the row has already. -/
def reoffered (items : List (Text × ClassGiven)) (row : KeyRow) : Bool :=
  items.any fun item => asked? row.folded item = some row.keyClass

theorem mem_accepted_iff (hfresh : isBuiltin folded = false)
    (hclass : (takeAll addItem v items).classAt folded = some c) :
    item ∈ accepted addItem v items ∧ foldKey item.1 = folded ↔
      item ∈ items ∧ asked? folded item = some c := by
  have hmem : item ∈ (accepted addItem v items).filter (foldKey ·.1 = folded) ↔
      item ∈ accepted addItem v items ∧ foldKey item.1 = folded := by simp
  rw [← hmem, filter_accepted hfresh, hclass, List.mem_filter]
  cases asked? folded item <;> simp

/-- A key that was there is accepted again exactly when an offer asks for its class. -/
theorem Sound.folded_mem_accepted_iff (h : Sound v) (hrow : row ∈ v.added) :
    row.folded ∈ (accepted addItem v items).map (foldKey ·.1) ↔ reoffered items row := by
  have hfresh := h.fresh row hrow
  have hbefore : v.classAt row.folded = some row.keyClass := by
    rw [classAt, added?, find?_of_mem KeyRow.folded h.nodup hrow]
    rfl
  have hclass : (Offers.takeAll addItem v items).classAt row.folded = some row.keyClass := by
    rw [classAt_takeAll hfresh, hbefore, Option.some_or]
  constructor
  · intro hkey
    obtain ⟨item, hitem, hkey⟩ := List.mem_map.mp hkey
    obtain ⟨hitem, hasked⟩ := (mem_accepted_iff hfresh hclass).mp ⟨hitem, hkey⟩
    exact List.any_eq_true.mpr ⟨item, hitem, by simpa using hasked⟩
  · intro hany
    obtain ⟨item, hitem, hasked⟩ := List.any_eq_true.mp hany
    obtain ⟨hitem, hkey⟩ := (mem_accepted_iff hfresh hclass).mpr ⟨hitem, by simpa using hasked⟩
    exact List.mem_map.mpr ⟨item, hitem, hkey⟩

/-- Dropping the accepted keys leaves the rows that were not offered again. -/
theorem Sound.dropKeys_takeAll (h : Sound v) (items : List (Text × ClassGiven)) :
    ((accepted addItem v items).map Prod.fst).foldl Vocabulary.dropKey
      (Offers.takeAll addItem v items)
      = ⟨v.added.filter fun row => !reoffered items row⟩ := by
  have hrows :
      (Offers.takeAll addItem v items).added.filter
      (·.folded ∉ (accepted addItem v items).map (foldKey ·.1))
      = v.added.filter (·.folded ∉ (accepted addItem v items).map (foldKey ·.1)) :=
    filter_takeAll fun item hitem => List.mem_map_of_mem hitem
  rw [foldl_dropKey, List.map_map]
  refine congrArg Vocabulary.mk (hrows.trans ?_)
  apply List.filter_congr
  intro row hrow
  have hiff : row.folded ∈ (accepted addItem v items).map (foldKey ·.1) ↔ reoffered items row :=
    h.folded_mem_accepted_iff hrow
  simp only [hiff, decide_not, Bool.decide_eq_true]

end Vocabulary
end TagLint
