import TagLint.Render.Operation
import Mathlib.Data.List.Forall2

/-! Renderings that have a text: how they are put together from smaller ones. -/
namespace TagLint.Render
open Text

variable {α β : Type} {l items : List α} {key : α → Rendered β} {same : β → β → Bool}

/-- There is a result. -/
def Succeeds (x : Rendered α) : Prop := ∃ a, x = .ok a

@[simp] theorem succeeds_ok (a : α) : Succeeds (.ok a) := ⟨a, rfl⟩

@[simp] theorem not_succeeds_error (e : RenderError) : ¬ Succeeds (.error e : Rendered α) := by
  rintro ⟨a, h⟩
  cases h

theorem map_eq_ok_iff {ε : Type} {x : Except ε α} {f : α → β} {b : β} :
    x.map f = .ok b ↔ ∃ a, x = .ok a ∧ f a = b := by
  cases x with
  | error e => simp [Except.map]
  | ok a => simp [Except.map]

theorem succeeds_map_iff {x : Rendered α} {f : α → β} : Succeeds (x.map f) ↔ Succeeds x := by
  cases x with
  | error e => simp [Except.map]
  | ok a => simp [Except.map]

/-- The second part may depend on the result of the first, as long as it succeeds with all or with
none. -/
theorem succeeds_bind_iff {x : Rendered α} {f : α → Rendered β} {P : Prop}
    (hf : ∀ a, Succeeds (f a) ↔ P) : Succeeds (x >>= f) ↔ Succeeds x ∧ P := by
  cases x with
  | error e => simp [bind, Except.bind]
  | ok a =>
    change Succeeds (f a) ↔ _
    simp [hf a]

theorem Succeeds.bind_iff {x : Rendered α} {f : α → Rendered β} {P : Prop} (hx : Succeeds x)
    (hf : ∀ a, Succeeds (f a) ↔ P) : Succeeds (x >>= f) ↔ P :=
  (succeeds_bind_iff hf).trans (and_iff_right hx)

theorem Succeeds.bind {x : Rendered α} {f : α → Rendered β} (hx : Succeeds x)
    (hf : ∀ a, Succeeds (f a)) : Succeeds (x >>= f) :=
  (hx.bind_iff fun a => iff_true_intro (hf a)).mpr trivial

theorem mapM_eq_ok_iff {f : α → Rendered β} {bs : List β} :
    l.mapM f = .ok bs ↔ List.Forall₂ (fun a b => f a = .ok b) l bs := by
  induction l generalizing bs with
  | nil =>
    cases bs with
    | nil => simp [pure, Except.pure]
    | cons b bs => simp [pure, Except.pure]
  | cons a l ih =>
    rw [List.mapM_cons]
    cases ha : f a with
    | error e =>
      cases bs with
      | nil => simp [bind, Except.bind]
      | cons b bs => simp [bind, Except.bind, ha]
    | ok b =>
      cases hl : l.mapM f with
      | error e =>
        cases bs with
        | nil => simp [bind, Except.bind]
        | cons b' bs => simp [bind, Except.bind, ← ih, hl]
      | ok rest =>
        cases bs with
        | nil => simp [bind, Except.bind, pure, Except.pure]
        | cons b' bs => simp [bind, Except.bind, pure, Except.pure, ← ih, hl, ha]

theorem succeeds_mapM_iff {f : α → Rendered β} : Succeeds (l.mapM f) ↔ ∀ a ∈ l, Succeeds (f a) := by
  induction l with
  | nil => simp [pure, Except.pure]
  | cons a l ih =>
    rw [List.mapM_cons, List.forall_mem_cons, ← ih]
    cases f a with
    | error e => simp [bind, Except.bind]
    | ok b =>
      cases l.mapM f with
      | error e => simp [bind, Except.bind]
      | ok bs => simp [bind, Except.bind, pure, Except.pure]

/-! ## Groups -/

/-- What every step keeps, a fold keeps. -/
theorem exists_foldlM {σ : Type} {f : σ → α → Rendered σ} {P : σ → Prop} {s : σ} (hs : P s)
    (hstep : ∀ a ∈ l, ∀ s, P s → ∃ s', f s a = .ok s' ∧ P s') :
    ∃ s', l.foldlM f s = .ok s' ∧ P s' := by
  induction l generalizing s with
  | nil => exact ⟨s, rfl, hs⟩
  | cons a l ih =>
    obtain ⟨ha, hl⟩ := List.forall_mem_cons.mp hstep
    obtain ⟨s', hfirst, hs'⟩ := ha s hs
    obtain ⟨s'', hrest, hs''⟩ := ih hs' hl
    refine ⟨s'', ?_, hs''⟩
    rw [List.foldlM_cons, hfirst]
    exact hrest

/-- Grouping items succeeds with their keys, and every group is made of items. -/
theorem exists_groupBy (same : β → β → Bool) (h : ∀ a ∈ items, Succeeds (key a)) :
    ∃ groups, groupBy key same items = .ok groups ∧ ∀ g ∈ groups, g.2 ⊆ items := by
  apply exists_foldlM (by simp)
  intro a ha groups hgroups
  obtain ⟨k, hk⟩ := h a ha
  rw [hk]
  by_cases hany : groups.any fun g => same g.1 k
  · refine ⟨_, if_pos hany, fun g hg => ?_⟩
    obtain ⟨g, hmem, rfl⟩ := List.mem_map.mp hg
    split
    · exact List.append_subset.mpr ⟨hgroups g hmem, by simpa using ha⟩
    · exact hgroups g hmem
  · refine ⟨_, if_neg hany, fun g hg => ?_⟩
    rcases List.mem_append.mp hg with hg | hg
    · exact hgroups g hg
    · rw [List.mem_singleton.mp hg]
      exact by simpa using ha

end TagLint.Render
