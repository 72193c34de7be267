/-! Offers that are made one after another to something that takes or refuses them. -/
namespace TagLint.Offers

variable {σ α β ε : Type} {add : σ → α → Except ε σ} {s s' : σ} {x : α} {xs ys : List α} {e : ε}

/-- A refused offer changes nothing. -/
def take (add : σ → α → Except ε σ) (s : σ) (x : α) : σ :=
  match add s x with
  | .ok s' => s'
  | .error _ => s

def takeAll (add : σ → α → Except ε σ) (s : σ) (xs : List α) : σ := xs.foldl (take add) s

/-- The offers that are accepted, each where it comes. -/
def accepted (add : σ → α → Except ε σ) (s : σ) : List α → List α
  | [] => []
  | x :: xs =>
    match add s x with
    | .ok s' => x :: accepted add s' xs
    | .error _ => accepted add s xs

theorem take_of_ok (h : add s x = .ok s') : take add s x = s' := by rw [take, h]

theorem take_of_refused (h : add s x = .error e) : take add s x = s := by rw [take, h]

theorem takeAll_cons : takeAll add s (x :: xs) = takeAll add (take add s x) xs := rfl

theorem takeAll_append : takeAll add s (xs ++ ys) = takeAll add (takeAll add s xs) ys :=
  List.foldl_append

theorem accepted_of_ok (h : add s x = .ok s') :
    accepted add s (x :: xs) = x :: accepted add s' xs := by
  rw [accepted, h]

theorem accepted_of_refused (h : add s x = .error e) :
    accepted add s (x :: xs) = accepted add s xs := by
  rw [accepted, h]

theorem accepted_append :
    accepted add s (xs ++ ys) = accepted add s xs ++ accepted add (takeAll add s xs) ys := by
  induction xs generalizing s with
  | nil => rfl
  | cons x xs ih =>
    rw [List.cons_append, takeAll_cons]
    cases h : add s x with
    | ok s' => rw [accepted_of_ok h, accepted_of_ok h, take_of_ok h, ih, List.cons_append]
    | error e => rw [accepted_of_refused h, accepted_of_refused h, take_of_refused h, ih]

theorem exists_of_mem_accepted (hx : x ∈ accepted add s xs) : ∃ s₁ s₂, add s₁ x = .ok s₂ := by
  induction xs generalizing s with
  | nil => cases hx
  | cons y xs ih =>
    cases h : add s y with
    | ok s' =>
      rw [accepted_of_ok h] at hx
      rcases List.mem_cons.mp hx with rfl | hx
      · exact ⟨s, s', h⟩
      · exact ih hx
    | error e =>
      rw [accepted_of_refused h] at hx
      exact ih hx

/-- Where an offer counts only if nothing is there yet, the first one that counts stays. -/
theorem first_stays (look : σ → Option β) (ask : α → Option β)
    (hstep : ∀ s x, look (take add s x) = (look s).or (ask x)) (s : σ) (xs : List α) :
    look (takeAll add s xs) = (look s).or (xs.findSome? ask) := by
  induction xs generalizing s with
  | nil => exact (Option.or_none).symm
  | cons x xs ih =>
    rw [takeAll_cons, ih, hstep, Option.or_assoc, List.findSome?_cons]
    cases ask x <;> rfl

/-- What no accepted offer changes stays. -/
theorem view_stays (view : σ → β) (P : α → Prop)
    (hstep : ∀ s x s', add s x = .ok s' → P x → view s' = view s)
    (h : ∀ x ∈ accepted add s xs, P x) : view (takeAll add s xs) = view s := by
  induction xs generalizing s with
  | nil => rfl
  | cons x xs ih =>
    rw [takeAll_cons]
    cases hadd : add s x with
    | ok s' =>
      rw [accepted_of_ok hadd] at h
      obtain ⟨hx, hxs⟩ := List.forall_mem_cons.mp h
      rw [take_of_ok hadd, ih hxs]
      exact hstep s x s' hadd hx
    | error e =>
      rw [accepted_of_refused hadd] at h
      rw [take_of_refused hadd, ih h]

end TagLint.Offers
