import TagLint.Proofs.Registry.RuleBook

/-! The rules for values as one dictionary that is written in place, built-in rules and all. -/
namespace TagLint
open Text

variable {key k : Text} {rule a b c : ValueRule} {e : RuleBookError} {call : RuleCall}

/-! ## The same rule -/

theorem RuleId.isSame_iff {i j : RuleId} : i.isSame j ↔ i ≠ .unnamed ∧ i = j := by
  simp [isSame]

theorem ValueRule.Is.refl (a : ValueRule) : a.Is a := Or.inl rfl

theorem ValueRule.Is.id_eq (h : a.Is b) : a.id = b.id := by
  rcases h with rfl | h
  · rfl
  · exact (RuleId.isSame_iff.mp h).2

/-- Rules that are one and the same as a third cannot be told apart. -/
theorem ValueRule.Is.of_isSame (h : a.Is b) (hsame : a.id.isSame c.id) : c.Is b := by
  obtain ⟨hne, heq⟩ := RuleId.isSame_iff.mp hsame
  exact Or.inr (RuleId.isSame_iff.mpr ⟨heq ▸ hne, heq.symm.trans h.id_eq⟩)

/-- The rules by key, the built-in ones first. -/
abbrev RuleTable := List (Text × ValueRule)

namespace RuleTable

variable {d d' : RuleTable} {book book' : RuleBook}

/-- An edit may give up half-way; what it has written until then stays. -/
abbrev Edit := ExceptT RuleBookError (StateM RuleTable)

def register (key : Text) (given : Option ValueRule) : Edit Unit := do
  let folded := foldKey key
  if folded = [] then
    throw .blankKey
  match given with
  | none => throw (.notARule key)
  | some rule =>
    if RuleBook.isBuiltin folded then
      throw (.builtinKey key)
    match Dict.get? folded (← get) with
    | some old =>
      if !old.id.isSame rule.id then
        throw (.taken key)
    | none => pure ()
    modify (Dict.set folded rule)

def unregister (key : Text) : Edit Unit := do
  let folded := foldKey key
  if !RuleBook.isBuiltin folded then
    modify (Dict.pop folded)

def edit : RuleCall → Edit Unit
  | .add key given => register key given
  | .drop key => unregister key

/-- What the call answers, and the dictionary it leaves. -/
def answer (d : RuleTable) (call : RuleCall) : Except RuleBookError Unit × RuleTable :=
  (edit call).run.run d

def after (d : RuleTable) (calls : List RuleCall) : RuleTable :=
  calls.foldl (fun d call => (answer d call).2) d

/-- The dictionary and the book have the same rule under every key. -/
def Agrees (d : RuleTable) (book : RuleBook) : Prop :=
  ∀ k, Option.Rel ValueRule.Is (Dict.get? k d) (Dict.get? k book.rules)

theorem agrees_rules (book : RuleBook) : Agrees book.rules book := by
  intro k
  cases Dict.get? k book.rules with
  | none => exact .none
  | some rule => exact .some (.refl rule)

theorem Agrees.of_none (h : Agrees d book) (hbook : Dict.get? k book.rules = none) :
    Dict.get? k d = none := by
  have hrel := h k
  rw [hbook] at hrel
  cases hd : Dict.get? k d with
  | none => rfl
  | some old => rw [hd] at hrel; cases hrel

theorem Agrees.of_some (h : Agrees d book) (hbook : Dict.get? k book.rules = some rule) :
    ∃ old, Dict.get? k d = some old ∧ old.Is rule := by
  have hrel := h k
  rw [hbook] at hrel
  cases hd : Dict.get? k d with
  | none => rw [hd] at hrel; cases hrel
  | some old =>
    rw [hd] at hrel
    cases hrel with
    | some his => exact ⟨old, rfl, his⟩

/-- One look-up decides whether the two still agree when no other key has changed. -/
theorem Agrees.of_eq_elsewhere (h : Agrees d book)
    (hhere : Option.Rel ValueRule.Is (Dict.get? k d') (Dict.get? k book'.rules))
    (hd : ∀ key, k ≠ key → Dict.get? key d' = Dict.get? key d)
    (hbook : ∀ key, k ≠ key → Dict.get? key book'.rules = Dict.get? key book.rules) :
    Agrees d' book' := by
  intro key
  by_cases hkey : k = key
  · subst key
    exact hhere
  · rw [hd key hkey, hbook key hkey]
    exact h key

/-! ## One call -/

theorem get?_rules_append (hkey : k ≠ key) :
    Dict.get? key (⟨book.added ++ [(k, rule)]⟩ : RuleBook).rules = Dict.get? key book.rules := by
  have hlast : Dict.get? key [(k, rule)] = none := by simp [Dict.get?, hkey]
  simp only [RuleBook.rules, Dict.get?_append, hlast, Option.or_none]

theorem get?_rules_dropRule (hkey : foldKey k ≠ key) :
    Dict.get? key (book.dropRule k).rules = Dict.get? key book.rules := by
  have hadded : Dict.get? key (book.dropRule k).added = Dict.get? key book.added :=
    Dict.get?_pop_of_ne hkey book.added
  simp only [RuleBook.rules, Dict.get?_append, hadded]

theorem run_get_bind (f : RuleTable → Edit Unit) (d : RuleTable) :
    (get >>= f).run.run d = (f d).run.run d := rfl

theorem answer_add (h : Agrees d book) (key : Text) (given : Option ValueRule) :
    match book.addRule key given with
    | .ok book' => ∃ d', answer d (.add key given) = (.ok (), d') ∧ Agrees d' book'
    | .error e => answer d (.add key given) = (.error e, d) := by
  by_cases hblank : foldKey key = []
  · simp only [RuleBook.addRule_blank hblank, answer, edit, register, hblank, reduceIte]
    rfl
  cases given with
  | none =>
    simp only [RuleBook.addRule_none hblank, answer, edit, register, hblank, reduceIte]
    rfl
  | some rule =>
    by_cases hbuiltin : RuleBook.isBuiltin (foldKey key)
    · simp only [RuleBook.addRule_builtin hblank hbuiltin, answer, edit, register, hblank, hbuiltin,
        reduceIte]
      rfl
    have hfresh : RuleBook.isBuiltin (foldKey key) = false := by simpa using hbuiltin
    have hset := fun key' (hne : foldKey key ≠ key') => Dict.get?_set_of_ne hne rule d
    rw [RuleBook.addRule_some hblank hfresh]
    simp only [answer, edit, register, hblank, hbuiltin, Bool.false_eq_true, reduceIte,
      run_get_bind]
    cases hadded : book.added? (foldKey key) with
    | none =>
      have hnone := h.of_none ((RuleBook.get?_rules_of_fresh hfresh).trans hadded)
      have hadded : Dict.get? (foldKey key) book.added = none := hadded
      simp only [hnone]
      refine ⟨_, rfl, h.of_eq_elsewhere ?_ hset fun _ hne => get?_rules_append hne⟩
      rw [Dict.get?_set_self, RuleBook.get?_rules_of_fresh hfresh, RuleBook.added?,
        Dict.get?_append, hadded]
      simp [Dict.get?, ValueRule.Is.refl]
    | some kept =>
      obtain ⟨old, hold, his⟩ := h.of_some ((RuleBook.get?_rules_of_fresh hfresh).trans hadded)
      simp only [hold, his.id_eq]
      by_cases hsame : kept.id.isSame rule.id
      · have hagain : old.id.isSame rule.id := by rw [his.id_eq, hsame]
        simp only [hsame, reduceIte]
        refine ⟨_, rfl, h.of_eq_elsewhere ?_ hset fun _ _ => rfl⟩
        rw [Dict.get?_set_self, RuleBook.get?_rules_of_fresh hfresh, hadded]
        exact .some (his.of_isSame hagain)
      · simp only [hsame, Bool.false_eq_true, reduceIte]
        rfl

theorem answer_drop (h : Agrees d book) (key : Text) :
    ∃ d', answer d (.drop key) = (.ok (), d') ∧ Agrees d' (book.dropRule key) := by
  by_cases hbuiltin : RuleBook.isBuiltin (foldKey key)
  -- What the book may drop here was hidden behind the built-in rule.
  · refine ⟨d, ?_, h.of_eq_elsewhere (k := foldKey key) ?_ (fun _ _ => rfl) fun _ hne =>
      get?_rules_dropRule hne⟩
    · simp only [answer, edit, unregister, hbuiltin]
      rfl
    · obtain ⟨rule, hrule⟩ := RuleBook.exists_of_isBuiltin hbuiltin
      have hhere := h (foldKey key)
      simp only [RuleBook.rules, Dict.get?_append, hrule, Option.some_or] at hhere ⊢
      exact hhere
  · have hfresh : RuleBook.isBuiltin (foldKey key) = false := by simpa using hbuiltin
    refine ⟨Dict.pop (foldKey key) d, ?_, h.of_eq_elsewhere (k := foldKey key) ?_
      (fun _ hne => Dict.get?_pop_of_ne hne d) fun _ hne => get?_rules_dropRule hne⟩
    · simp only [answer, edit, unregister, hfresh]
      rfl
    · have hadded : (book.dropRule key).added? (foldKey key) = none :=
        Dict.get?_pop_self (foldKey key) book.added
      rw [Dict.get?_pop_self, RuleBook.get?_rules_of_fresh hfresh, hadded]
      exact .none

/-! ## Every run -/

theorem answer_of_error (h : Agrees d book) (hcall : book.apply call = .error e) :
    answer d call = (.error e, d) := by
  cases call with
  | add key given =>
    have hanswer := answer_add h key given
    rw [RuleBook.apply] at hcall
    rw [hcall] at hanswer
    exact hanswer
  | drop key => simp [RuleBook.apply] at hcall

theorem answer_of_ok (h : Agrees d book) (hcall : book.apply call = .ok book') :
    ∃ d', answer d call = (.ok (), d') ∧ Agrees d' book' := by
  cases call with
  | add key given =>
    have hanswer := answer_add h key given
    rw [RuleBook.apply] at hcall
    rw [hcall] at hanswer
    exact hanswer
  | drop key =>
    obtain rfl := Except.ok.inj hcall
    exact answer_drop h key

theorem Agrees.step (h : Agrees d book) (call : RuleCall) :
    Agrees (answer d call).2 (book.step call) := by
  rw [RuleBook.step]
  cases hcall : book.apply call with
  | ok book' =>
    obtain ⟨d', hanswer, hagrees⟩ := answer_of_ok h hcall
    rw [hanswer]
    exact hagrees
  | error e =>
    rw [answer_of_error h hcall]
    exact h

/-- The run on the dictionary finds the rules that the run on the book finds. -/
theorem Agrees.after (h : Agrees d book) (calls : List RuleCall) :
    Agrees (RuleTable.after d calls) (book.after calls) := by
  induction calls generalizing d book with
  | nil => exact h
  | cons call calls ih => exact ih (h.step call)

/-- A refused call has written nothing. -/
theorem eq_of_answer_error (h : Agrees d book) (hcall : answer d call = (.error e, d')) :
    d' = d := by
  cases happly : book.apply call with
  | ok book' =>
    obtain ⟨d'', hanswer, -⟩ := answer_of_ok h happly
    rw [hanswer] at hcall
    simp at hcall
  | error e' =>
    rw [answer_of_error h happly] at hcall
    exact (Prod.mk.inj hcall).2.symm

end RuleTable
end TagLint
