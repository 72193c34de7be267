import TagLint.Proofs.Registry.Offers
import TagLint.Proofs.Registry.RuleBook
import TagLint.Proofs.Text.Lowered

/-! Rules that are offered one after another: the first one stays, and the same offers again change
nothing. -/
namespace TagLint.RuleBook
open Text Offers

variable {b b' : RuleBook} {folded : Text} {rule kept : ValueRule} {p : Text × ValueRule}
  {item : Text × Option ValueRule} {items : List (Text × Option ValueRule)} {e : RuleBookError}
  {keys : List Text}

/-- The rule that is offered for one key. -/
def offered? (folded : Text) (item : Text × Option ValueRule) : Option ValueRule :=
  if folded ≠ [] ∧ foldKey item.1 = folded then item.2 else none

theorem offered?_eq_some_iff : offered? folded item = some rule ↔
    folded ≠ [] ∧ foldKey item.1 = folded ∧ item.2 = some rule := by
  rw [offered?, Option.ite_none_right_eq_some, and_assoc]

theorem offered?_of_ne (h : foldKey item.1 ≠ folded) :
    offered? folded item = none := by simp [offered?, h]

def addItem (b : RuleBook) (item : Text × Option ValueRule) : Except RuleBookError RuleBook :=
  b.addRule item.1 item.2

theorem take_eq_step (b : RuleBook) (item : Text × Option ValueRule) :
    take addItem b item = b.step (.add item.1 item.2) := by
  rw [take, addItem, step, apply]
  cases b.addRule item.1 item.2 <;> rfl

/-! ## One offer -/

/-- A rule for a key without one is written behind the others, and the same rule again changes
nothing. -/
theorem offered?_of_ok (h : b.addItem item = .ok b') : isBuiltin (foldKey item.1) = false ∧
    ∃ rule, offered? (foldKey item.1) item = some rule ∧
      ((b.added? (foldKey item.1) = none ∧ b' = ⟨b.added ++ [(foldKey item.1, rule)]⟩) ∨
        ∃ kept, b.added? (foldKey item.1) = some kept ∧ kept.id.isSame rule.id ∧ b' = b) := by
  obtain ⟨hblank, hfresh, rule, hgiven, hadded⟩ := addRule_eq_ok_iff.mp h
  refine ⟨hfresh, rule, offered?_eq_some_iff.mpr ⟨hblank, rfl, hgiven⟩, ?_⟩
  rcases hadded with ⟨hnone, rfl⟩ | ⟨kept, hkept, hsame, rfl⟩
  · exact Or.inl ⟨hnone, rfl⟩
  · exact Or.inr ⟨kept, hkept, hsame, rfl⟩

/-- An offer is refused where the key has another rule. -/
theorem added?_of_refused (hfresh : isBuiltin folded = false) (h : b.addItem item = .error e)
    (hoffered : offered? folded item = some rule) :
    ∃ kept, b.added? folded = some kept ∧ ¬ kept.id.isSame rule.id := by
  obtain ⟨hblank, rfl, hgiven⟩ := offered?_eq_some_iff.mp hoffered
  rw [addItem, hgiven, addRule_some hblank hfresh] at h
  cases hadded : b.added? (foldKey item.1) with
  | none => simp [hadded] at h
  | some kept =>
    refine ⟨kept, rfl, ?_⟩
    intro hsame
    simp [hadded, hsame] at h

/-- A key keeps the rule that it has; else the offer decides. -/
theorem added?_take (hfresh : isBuiltin folded = false) (b : RuleBook)
    (item : Text × Option ValueRule) :
    (take addItem b item).added? folded = (b.added? folded).or (offered? folded item) := by
  cases h : b.addItem item with
  | ok b' =>
    rw [take_of_ok h]
    obtain ⟨-, rule, hoffered, ⟨hnone, rfl⟩ | ⟨kept, hkept, -, rfl⟩⟩ := offered?_of_ok h
    · rw [added?, Dict.get?_append]
      by_cases hkey : foldKey item.1 = folded
      · subst folded
        rw [hoffered]
        simp [Dict.get?, added?]
      · rw [offered?_of_ne hkey]
        simp [Dict.get?, added?, hkey]
    · by_cases hkey : foldKey item.1 = folded
      · subst folded
        rw [hkept, Option.some_or]
      · rw [offered?_of_ne hkey, Option.or_none]
  | error e =>
    rw [take_of_refused h]
    cases hoffered : offered? folded item with
    | none => rw [Option.or_none]
    | some rule =>
      obtain ⟨kept, hkept, -⟩ := added?_of_refused hfresh h hoffered
      rw [hkept, Option.some_or]

/-! ## All offers -/

/-- The first rule that is offered for a key without one stays. -/
theorem added?_takeAll (hfresh : isBuiltin folded = false) (b : RuleBook)
    (items : List (Text × Option ValueRule)) :
    (takeAll addItem b items).added? folded
      = (b.added? folded).or (items.findSome? (offered? folded)) :=
  first_stays (added? · folded) (offered? folded) (added?_take hfresh) b items

/-- Offers for keys that have a rule change nothing. -/
theorem takeAll_of_added (h : ∀ item ∈ items, isBuiltin (foldKey item.1) = false →
      (offered? (foldKey item.1) item).isSome → (b.added? (foldKey item.1)).isSome) :
    takeAll addItem b items = b := by
  induction items with
  | nil => rfl
  | cons item items ih =>
    obtain ⟨hitem, hitems⟩ := List.forall_mem_cons.mp h
    rw [takeAll_cons]
    cases hadd : b.addItem item with
    | error e =>
      rw [take_of_refused hadd]
      exact ih hitems
    | ok b' =>
      rw [take_of_ok hadd]
      obtain ⟨hfresh, rule, hoffered, ⟨hnone, -⟩ | ⟨-, -, -, rfl⟩⟩ := offered?_of_ok hadd
      · have hsome := hitem hfresh (by simp [hoffered])
        simp [hnone] at hsome
      · exact ih hitems

theorem takeAll_takeAll (b : RuleBook) (items : List (Text × Option ValueRule)) :
    takeAll addItem (takeAll addItem b items) items = takeAll addItem b items := by
  apply takeAll_of_added
  intro item hitem hfresh hoffered
  have hfound : (items.findSome? (offered? (foldKey item.1))).isSome := by
    rw [List.findSome?_isSome_iff]
    exact ⟨item, hitem, hoffered⟩
  rw [added?_takeAll hfresh, Option.isSome_or, hfound, Bool.or_true]

/-! ## What every run keeps -/

/-- The rules that were added stand under keys in lower case, each once, and none hides behind a
built-in rule. -/
structure Sound (b : RuleBook) : Prop where
  fresh : ∀ p ∈ b.added, isBuiltin p.1 = false
  nodup : (b.added.map Prod.fst).Nodup
  lowered : ∀ p ∈ b.added, lower p.1 = p.1

theorem sound_empty : Sound {} := by
  constructor <;> simp

theorem Sound.append (h : Sound b) (hp : isBuiltin p.1 = false) (hlower : lower p.1 = p.1)
    (hnone : b.added? p.1 = none) : Sound ⟨b.added ++ [p]⟩ := by
  constructor
  · intro q hq
    rcases List.mem_append.mp hq with hq | hq
    · exact h.fresh q hq
    · rw [List.mem_singleton.mp hq]
      exact hp
  · rw [List.map_append, List.nodup_append]
    refine ⟨h.nodup, by simp, ?_⟩
    intro k hk k' hk'
    obtain ⟨q, hq, rfl⟩ := List.mem_map.mp hk
    obtain rfl : k' = p.1 := by simpa using hk'
    have hnone : b.added.find? (·.1 = p.1) = none := Option.map_eq_none_iff.mp hnone
    simpa using List.find?_eq_none.mp hnone q hq
  · intro q hq
    rcases List.mem_append.mp hq with hq | hq
    · exact h.lowered q hq
    · rw [List.mem_singleton.mp hq]
      exact hlower

theorem Sound.dropRule (h : Sound b) (key : Text) : Sound (b.dropRule key) := by
  constructor
  · exact fun p hp => h.fresh p (List.mem_filter.mp hp).1
  · exact h.nodup.sublist (List.filter_sublist.map Prod.fst)
  · exact fun p hp => h.lowered p (List.mem_filter.mp hp).1

theorem Sound.take (h : Sound b) (item : Text × Option ValueRule) :
    Sound (take addItem b item) := by
  cases hadd : b.addItem item with
  | error e =>
    rw [take_of_refused hadd]
    exact h
  | ok b' =>
    rw [take_of_ok hadd]
    obtain ⟨hfresh, rule, -, ⟨hnone, rfl⟩ | ⟨kept, -, -, rfl⟩⟩ := offered?_of_ok hadd
    · exact h.append hfresh (lower_lower _) hnone
    · exact h

theorem Sound.after (h : Sound b) (calls : List RuleCall) : Sound (b.after calls) := by
  induction calls generalizing b with
  | nil => exact h
  | cons call calls ih =>
    cases call with
    | add key given =>
      have hstep := h.take (key, given)
      rw [take_eq_step] at hstep
      exact ih hstep
    | drop key => exact ih (h.dropRule key)

theorem Sound.added?_of_mem (h : Sound b) (hp : p ∈ b.added) : b.added? p.1 = some p.2 := by
  rw [added?, Dict.get?, find?_of_mem Prod.fst h.nodup hp]
  rfl

/-! ## Taking back what was accepted -/

/-- Where no offer is accepted, the rules stay. -/
theorem filter_takeAll (h : ∀ item ∈ accepted addItem b items, foldKey item.1 ∈ keys) :
    (takeAll addItem b items).added.filter (·.1 ∉ keys) = b.added.filter (·.1 ∉ keys) := by
  refine view_stays (fun b : RuleBook => b.added.filter (·.1 ∉ keys))
    (fun item : Text × Option ValueRule => foldKey item.1 ∈ keys) ?_ h
  intro b item b' hadd hkey
  obtain ⟨-, rule, -, ⟨-, rfl⟩ | ⟨-, -, -, rfl⟩⟩ := offered?_of_ok hadd
  · simp [List.filter_append, hkey]
  · rfl

theorem foldl_dropRule (keys : List Text) (b : RuleBook) :
    keys.foldl RuleBook.dropRule b = ⟨b.added.filter (·.1 ∉ keys.map foldKey)⟩ := by
  induction keys generalizing b with
  | nil => exact congrArg RuleBook.mk (List.filter_eq_self.mpr (by simp)).symm
  | cons key keys ih =>
    rw [List.foldl_cons, ih, RuleBook.dropRule, List.filter_filter]
    congr 1
    apply List.filter_congr
    intro p _
    by_cases hkey : p.1 = foldKey key <;> simp [hkey]

/-- Whether one of the offers has the rule that stands under the key already. -/
def reoffered (items : List (Text × Option ValueRule)) (p : Text × ValueRule) : Bool :=
  items.any fun item => (offered? p.1 item).any fun rule => p.2.id.isSame rule.id

/-- An offer for a key that has a rule is accepted exactly when it is the same rule. -/
theorem mem_accepted_iff (h : b.Holds folded kept) :
    item ∈ accepted addItem b items ∧ foldKey item.1 = folded ↔
      item ∈ items ∧ ∃ rule, offered? folded item = some rule ∧ kept.id.isSame rule.id := by
  induction items generalizing b with
  | nil => simp [accepted]
  | cons first items ih =>
    cases hadd : b.addItem first with
    | ok b' =>
      have hkept := ih (h.addRule hadd)
      rw [accepted_of_ok hadd, List.mem_cons, List.mem_cons, or_and_right, or_and_right, hkept]
      refine or_congr_left (and_congr_right ?_)
      rintro rfl
      obtain ⟨-, rule, hoffered, hbefore⟩ := offered?_of_ok hadd
      constructor
      · rintro rfl
        refine ⟨rule, hoffered, ?_⟩
        rcases hbefore with ⟨hnone, -⟩ | ⟨old, hold, hsame, -⟩
        · have hsome := h.2
          simp [hnone] at hsome
        · obtain rfl := Option.some.inj (hold.symm.trans h.2)
          exact hsame
      · rintro ⟨rule', hoffered', -⟩
        exact (offered?_eq_some_iff.mp hoffered').2.1
    | error e =>
      rw [accepted_of_refused hadd, ih h, List.mem_cons, or_and_right]
      refine (or_iff_right ?_).symm
      rintro ⟨rfl, rule, hoffered, hsame⟩
      obtain ⟨old, hold, hdiffers⟩ := added?_of_refused h.1 hadd hoffered
      obtain rfl := Option.some.inj (hold.symm.trans h.2)
      exact hdiffers hsame

/-- A key that had a rule is accepted again exactly when that rule is offered. -/
theorem Sound.fst_mem_accepted_iff (h : Sound b) (hp : p ∈ b.added) :
    p.1 ∈ (accepted addItem b items).map (foldKey ·.1) ↔ reoffered items p := by
  have hholds : b.Holds p.1 p.2 := ⟨h.fresh p hp, h.added?_of_mem hp⟩
  constructor
  · intro hkey
    obtain ⟨item, hitem, hkey⟩ := List.mem_map.mp hkey
    obtain ⟨hitem, rule, hoffered, hsame⟩ := (mem_accepted_iff hholds).mp ⟨hitem, hkey⟩
    exact List.any_eq_true.mpr ⟨item, hitem, by simp [hoffered, hsame]⟩
  · intro hany
    obtain ⟨item, hitem, hsame⟩ := List.any_eq_true.mp hany
    cases hoffered : offered? p.1 item with
    | none => simp [hoffered] at hsame
    | some rule =>
      have hsame : p.2.id.isSame rule.id := by simpa [hoffered] using hsame
      obtain ⟨hitem, hkey⟩ := (mem_accepted_iff hholds).mpr ⟨hitem, rule, hoffered, hsame⟩
      exact List.mem_map.mpr ⟨item, hitem, hkey⟩

/-- Dropping the accepted keys leaves the rules that were not offered again. -/
theorem Sound.dropRules_takeAll (h : Sound b) (items : List (Text × Option ValueRule)) :
    ((accepted addItem b items).map Prod.fst).foldl RuleBook.dropRule (takeAll addItem b items)
      = ⟨b.added.filter fun p => !reoffered items p⟩ := by
  have hrules :
      (takeAll addItem b items).added.filter (·.1 ∉ (accepted addItem b items).map (foldKey ·.1))
      = b.added.filter (·.1 ∉ (accepted addItem b items).map (foldKey ·.1)) :=
    filter_takeAll fun item hitem => List.mem_map_of_mem hitem
  rw [foldl_dropRule, List.map_map]
  refine congrArg RuleBook.mk (hrules.trans ?_)
  apply List.filter_congr
  intro p hp
  have hiff : p.1 ∈ (accepted addItem b items).map (foldKey ·.1) ↔ reoffered items p :=
    h.fst_mem_accepted_iff hp
  simp only [hiff, decide_not, Bool.decide_eq_true]

end TagLint.RuleBook
