import TagLint.Proofs.Registry.Vocabulary
import TagLint.Rule.Value

/-! The calls that change the rules for values: a rule stays under its key until the key is
dropped. -/
namespace TagLint
open Text

/-- A call that changes the rules; `none` stands for something that is no rule. -/
inductive RuleCall where
  | add (key : Text) (rule : Option ValueRule)
  | drop (key : Text)

/-- The same rule, or one that cannot be told from it. -/
def ValueRule.Is (a b : ValueRule) : Prop := a = b ∨ a.id.isSame b.id

namespace RuleBook

variable {b b' : RuleBook} {key k folded : Text} {given : Option ValueRule} {rule kept : ValueRule}
  {p : Text × ValueRule} {call : RuleCall} {calls : List RuleCall}

def apply (b : RuleBook) : RuleCall → Except RuleBookError RuleBook
  | .add key rule => b.addRule key rule
  | .drop key => .ok (b.dropRule key)

/-- A refused call changes nothing. -/
def step (b : RuleBook) (call : RuleCall) : RuleBook :=
  match b.apply call with
  | .ok b' => b'
  | .error _ => b

def after (b : RuleBook) (calls : List RuleCall) : RuleBook := calls.foldl step b

/-- The rule that was added for a key. -/
def added? (b : RuleBook) (folded : Text) : Option ValueRule := Dict.get? folded b.added

/-- Among the rules added so far, the name of a rule tells which rule it is. -/
def Names (b : RuleBook) (rule : ValueRule) : Prop :=
  ∀ p ∈ b.added, p.2.id.isSame rule.id → p.2 = rule

/-! ## Calls -/

theorem addRule_blank (h : foldKey key = []) : b.addRule key given = .error .blankKey := by
  simp [addRule, h]

theorem addRule_none (hblank : foldKey key ≠ []) : b.addRule key none = .error (.notARule key) := by
  simp [addRule, hblank]

theorem addRule_builtin (hblank : foldKey key ≠ []) (h : isBuiltin (foldKey key)) :
    b.addRule key (some rule) = .error (.builtinKey key) := by
  simp [addRule, hblank, h]

theorem addRule_some (hblank : foldKey key ≠ []) (hfresh : isBuiltin (foldKey key) = false) :
    b.addRule key (some rule) = match b.added? (foldKey key) with
      | none => .ok ⟨b.added ++ [(foldKey key, rule)]⟩
      | some old => if old.id.isSame rule.id then .ok b else .error (.taken key) := by
  rw [added?, Dict.get?]
  cases hfind : b.added.find? (·.1 = foldKey key) with
  | none => simp [addRule, hblank, hfresh, hfind]
  | some p => simp [addRule, hblank, hfresh, hfind]

/-- Adding a rule succeeds in two ways. -/
theorem addRule_eq_ok_iff : b.addRule key given = .ok b' ↔
    foldKey key ≠ [] ∧ isBuiltin (foldKey key) = false ∧ ∃ rule, given = some rule ∧
      ((b.added? (foldKey key) = none ∧ ⟨b.added ++ [(foldKey key, rule)]⟩ = b') ∨
        ∃ old, b.added? (foldKey key) = some old ∧ old.id.isSame rule.id ∧ b = b') := by
  by_cases hblank : foldKey key = []
  · simp [addRule_blank hblank, hblank]
  cases given with
  | none => simp [addRule_none hblank]
  | some rule =>
    by_cases hbuiltin : isBuiltin (foldKey key)
    · simp [addRule_builtin hblank hbuiltin, hbuiltin]
    have hfresh : isBuiltin (foldKey key) = false := by simpa using hbuiltin
    rw [addRule_some hblank hfresh]
    cases hadded : b.added? (foldKey key) with
    | none => simp [hblank, hfresh]
    | some old =>
      by_cases hsame : old.id.isSame rule.id
      · simp [hblank, hfresh, hsame]
      · simp [hsame]

/-! ## Look-up -/

theorem fst_ne_of_fresh (h : isBuiltin k = false) (hp : p ∈ ValueRule.builtin) : p.1 ≠ k := by
  intro heq
  have hbuiltin : isBuiltin k := by simpa [isBuiltin] using ⟨p.2, heq ▸ hp⟩
  simp [h] at hbuiltin

theorem get?_rules_of_fresh (h : isBuiltin k = false) : Dict.get? k b.rules = b.added? k := by
  have hnone : ValueRule.builtin.find? (·.1 = k) = none := by
    simpa using fun key rule hp => fst_ne_of_fresh h hp
  rw [rules, Dict.get?_append, added?]
  simp [Dict.get?, hnone]

theorem exists_of_isBuiltin (h : isBuiltin k) :
    ∃ rule, Dict.get? k ValueRule.builtin = some rule := by
  obtain ⟨p, hp, heq⟩ := List.any_eq_true.mp h
  cases hfind : ValueRule.builtin.find? (·.1 = k) with
  | none => exact absurd heq (by simpa using List.find?_eq_none.mp hfind p hp)
  | some q => exact ⟨q.2, by rw [Dict.get?, hfind]; rfl⟩

theorem nodup_builtin : (ValueRule.builtin.map Prod.fst).Nodup := by
  have hkeys : ValueRule.builtin.map Prod.fst = ValueRule.builtinChecks.map fun p =>
      p.1.toList := by
    simp [ValueRule.builtin, Function.comp_def]
  rw [hkeys]
  decide +kernel

/-! ## Until a key is dropped -/

/-- A rule was added for a key without a built-in one. -/
def Holds (b : RuleBook) (folded : Text) (kept : ValueRule) : Prop :=
  isBuiltin folded = false ∧ b.added? folded = some kept

theorem exists_holds_of_addRule (h : b.addRule key (some rule) = .ok b') :
    ∃ kept, b'.Holds (foldKey key) kept ∧ kept.Is rule ∧ (b.Names rule → kept = rule) := by
  obtain ⟨-, hfresh, rule', hrule, hadded⟩ := addRule_eq_ok_iff.mp h
  obtain rfl := Option.some.inj hrule
  rcases hadded with ⟨hnone, rfl⟩ | ⟨old, hold, hsame, rfl⟩
  · refine ⟨rule, ⟨hfresh, ?_⟩, Or.inl rfl, fun _ => rfl⟩
    have hnone : Dict.get? (foldKey key) b.added = none := hnone
    rw [added?, Dict.get?_append, hnone]
    simp [Dict.get?]
  · refine ⟨old, ⟨hfresh, hold⟩, Or.inr hsame, fun hnames => ?_⟩
    obtain ⟨p, hfind, rfl⟩ := Option.map_eq_some_iff.mp hold
    exact hnames p (List.mem_of_find?_eq_some hfind) hsame

theorem Holds.get? (h : b.Holds folded kept) (hk : lower k = folded) : b.get? k = some kept := by
  subst folded
  exact (get?_rules_of_fresh h.1).trans h.2

/-- Another rule for the same key is refused, and the same rule again changes nothing. -/
theorem Holds.addRule (h : b.Holds folded kept) (hadd : b.addRule key given = .ok b') :
    b'.Holds folded kept := by
  obtain ⟨-, -, rule, -, hadded⟩ := addRule_eq_ok_iff.mp hadd
  rcases hadded with ⟨-, rfl⟩ | ⟨old, -, -, rfl⟩
  · have hkept : Dict.get? folded b.added = some kept := h.2
    refine ⟨h.1, ?_⟩
    rw [added?, Dict.get?_append, hkept]
    rfl
  · exact h

theorem Holds.dropRule (h : b.Holds folded kept) (hkey : foldKey key ≠ folded) :
    (b.dropRule key).Holds folded kept :=
  ⟨h.1, (Dict.get?_pop_of_ne hkey b.added).trans h.2⟩

theorem Holds.step (h : b.Holds folded kept)
    (hdrop : ∀ key, call = .drop key → foldKey key ≠ folded) :
    (b.step call).Holds folded kept := by
  cases call with
  | add key given =>
    rw [RuleBook.step]
    split
    · rename_i hadd
      exact h.addRule hadd
    · exact h
  | drop key => exact h.dropRule (hdrop key rfl)

theorem Holds.after (h : b.Holds folded kept)
    (hdrop : ∀ key, RuleCall.drop key ∈ calls → foldKey key ≠ folded) :
    (b.after calls).Holds folded kept := by
  induction calls generalizing b with
  | nil => exact h
  | cons call calls ih =>
    have hcall : ∀ key, call = .drop key → foldKey key ≠ folded := by
      rintro key rfl
      exact hdrop key List.mem_cons_self
    exact ih (h.step hcall) fun key hmem => hdrop key (List.mem_cons_of_mem _ hmem)

/-- Whatever was added, a built-in rule is found under its key. -/
theorem get?_builtin (hp : p ∈ ValueRule.builtin) (hk : lower k = p.1) : b.get? k = some p.2 := by
  rw [get?, rules, hk, List.find?_append, find?_of_mem Prod.fst nodup_builtin hp]
  rfl

end RuleBook
end TagLint
