import Mathlib.Algebra.Ring.Int.Defs
import TagLint.Service.Span

/-! The totals of a span are the sums of the counts over the tree below it. -/
namespace TagLint.Span

variable {key k : Text} {n : Int} {counts more : List (Text × Int)} {s : Span} {ss : List Span}

/-- What is counted under a key; nothing is zero. -/
def countOf (key : Text) (counts : List (Text × Int)) : Int :=
  ((counts.find? (·.1 = key)).map (·.2)).getD 0

/-- The sum of all entries under a key. -/
def sumOf (key : Text) (counts : List (Text × Int)) : Int :=
  ((counts.filter (·.1 = key)).map (·.2)).sum

/-- Every key is counted in one place. -/
def Unique (counts : List (Text × Int)) : Prop := (counts.map (·.1)).Nodup

mutual

/-- A span and all that are below it. -/
def spans : Span → List Span
  | ⟨name, counts, annotations, children⟩ =>
    ⟨name, counts, annotations, children⟩ :: spansOf children

def spansOf : List Span → List Span
  | [] => []
  | s :: rest => spans s ++ spansOf rest

end

theorem spansOf_eq (ss : List Span) : spansOf ss = ss.flatMap spans := by
  induction ss with
  | nil => rfl
  | cons s ss ih => rw [spansOf, ih, List.flatMap_cons]

/-! ## Counts -/

theorem countOf_cons (k : Text) (n : Int) (counts : List (Text × Int)) :
    countOf key ((k, n) :: counts) = if k = key then n else countOf key counts := by
  by_cases h : k = key <;> simp [countOf, h]

theorem sumOf_cons (k : Text) (n : Int) (counts : List (Text × Int)) :
    sumOf key ((k, n) :: counts) = (if k = key then n else 0) + sumOf key counts := by
  by_cases h : k = key <;> simp [sumOf, h]

theorem sumOf_append (counts more : List (Text × Int)) :
    sumOf key (counts ++ more) = sumOf key counts + sumOf key more := by
  simp [sumOf]

theorem countOf_eq_zero (h : key ∉ counts.map (·.1)) : countOf key counts = 0 := by
  have hnone : counts.find? (·.1 = key) = none := by
    rw [List.find?_eq_none]
    intro p hp heq
    exact h (of_decide_eq_true heq ▸ List.mem_map_of_mem hp)
  rw [countOf, hnone]
  rfl

theorem sumOf_eq_countOf (h : Unique counts) : sumOf key counts = countOf key counts := by
  induction counts with
  | nil => rfl
  | cons p counts ih =>
    obtain ⟨k, n⟩ := p
    obtain ⟨hk, hunique⟩ := List.nodup_cons.mp h
    rw [sumOf_cons, countOf_cons, ih hunique]
    by_cases hkey : k = key
    · subst k
      rw [if_pos rfl, if_pos rfl, countOf_eq_zero hk, Int.add_zero]
    · rw [if_neg hkey, if_neg hkey, Int.zero_add]

theorem countOf_addCount (counts : List (Text × Int)) (k : Text) (n : Int) :
    countOf key (addCount counts k n) = countOf key counts + if k = key then n else 0 := by
  induction counts with
  | nil =>
    rw [addCount, countOf_cons]
    simp [countOf]
  | cons p counts ih =>
    obtain ⟨k', m⟩ := p
    rw [addCount]
    by_cases hk : k' = k
    · subst k'
      rw [if_pos rfl, countOf_cons, countOf_cons]
      split <;> simp
    · rw [if_neg hk, countOf_cons, countOf_cons, ih]
      by_cases hkey : k' = key
      · have hne : k ≠ key := fun h => hk (hkey.trans h.symm)
        rw [if_pos hkey, if_pos hkey, if_neg hne, Int.add_zero]
      · rw [if_neg hkey, if_neg hkey]

theorem countOf_addCounts (counts more : List (Text × Int)) :
    countOf key (addCounts counts more) = countOf key counts + sumOf key more := by
  induction more generalizing counts with
  | nil => simp [addCounts, sumOf]
  | cons p more ih =>
    obtain ⟨k, n⟩ := p
    change countOf key (addCounts (addCount counts k n) more) = _
    rw [ih, countOf_addCount, sumOf_cons, Int.add_assoc]

theorem keys_addCount (counts : List (Text × Int)) (k : Text) (n : Int) :
    (addCount counts k n).map (·.1) =
    if k ∈ counts.map (·.1) then counts.map (·.1) else counts.map (·.1) ++ [k] := by
  induction counts with
  | nil => rfl
  | cons p counts ih =>
    obtain ⟨k', m⟩ := p
    rw [addCount]
    by_cases hk : k' = k
    · simp [hk]
    · have hne : k ≠ k' := fun h => hk h.symm
      rw [if_neg hk, List.map_cons, ih]
      by_cases hmem : k ∈ counts.map (·.1) <;> simp [hmem, hne]

theorem Unique.addCount (h : Unique counts) (k : Text) (n : Int) :
    Unique (addCount counts k n) := by
  rw [Unique, keys_addCount]
  split
  case isTrue => exact h
  case isFalse hk =>
    rw [List.nodup_append]
    refine ⟨h, by simp, ?_⟩
    rintro k' hk' _ hmem rfl
    exact hk (List.mem_singleton.mp hmem ▸ hk')

theorem Unique.addCounts (h : Unique counts) (more : List (Text × Int)) :
    Unique (addCounts counts more) := by
  induction more generalizing counts with
  | nil => exact h
  | cons p more ih => exact ih (h.addCount p.1 p.2)

/-! ## Trees -/

theorem unique_totals (h : Unique s.counts) : Unique s.totals := by
  obtain ⟨name, counts, annotations, children⟩ := s
  exact h.addCounts _

-- One case for a span, two for a list of spans: what the children count is added to the span's own
-- counts.
mutual

theorem countOf_totals (key : Text) : ∀ s : Span, (∀ t ∈ s.spans, Unique t.counts) →
    countOf key s.totals = (s.spans.map fun t => countOf key t.counts).sum
  | ⟨name, counts, annotations, children⟩, h => by
    rw [spans] at h
    rw [totals, countOf_addCounts, spans, List.map_cons, List.sum_cons,
      sumOf_totalsOf key children fun t ht => h t (List.mem_cons_of_mem _ ht)]

theorem sumOf_totalsOf (key : Text) : ∀ ss : List Span, (∀ t ∈ spansOf ss, Unique t.counts) →
    sumOf key (totalsOf ss) = ((spansOf ss).map fun t => countOf key t.counts).sum
  | [], _ => rfl
  | s :: ss, h => by
    rw [spansOf] at h
    have hs : ∀ t ∈ s.spans, Unique t.counts := fun t ht => h t (List.mem_append_left _ ht)
    have hss : ∀ t ∈ spansOf ss, Unique t.counts := fun t ht => h t (List.mem_append_right _ ht)
    have hself : s ∈ s.spans := by
      obtain ⟨name, counts, annotations, children⟩ := s
      exact List.mem_cons_self
    rw [totalsOf, sumOf_append, sumOf_eq_countOf (unique_totals (hs s hself)),
      countOf_totals key s hs, sumOf_totalsOf key ss hss, spansOf, List.map_append, List.sum_append]

end

/-- Spans without children are all there is. -/
theorem spansOf_leaves (h : ∀ s ∈ ss, s.children = []) : spansOf ss = ss := by
  induction ss with
  | nil => rfl
  | cons s ss ih =>
    obtain ⟨hs, hss⟩ := List.forall_mem_cons.mp h
    obtain ⟨name, counts, annotations, children⟩ := s
    obtain rfl : children = [] := hs
    rw [spansOf, ih hss]
    rfl

end TagLint.Span
