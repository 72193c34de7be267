/-! Two caps on a list of lists: one on each of them, one on all together. -/
namespace TagLint

variable {α : Type} {c n : Nat} {l : List α} {ls : List (List α)} {x : α}

/-- The lists one after another, no more than `c` of each. -/
def cut (c : Nat) (ls : List (List α)) : List α := ls.flatMap (List.take c)

/-- A list longer than `c` comes only where the first `n` end anyway. -/
def Fits (c n : Nat) (ls : List (List α)) : Prop :=
  ∀ before l after, ls = before ++ l :: after → l.length ≤ c ∨ n ≤ (cut c before).length + c

theorem cut_cons (c : Nat) (l : List α) (ls : List (List α)) :
    cut c (l :: ls) = l.take c ++ cut c ls :=
  rfl

theorem cut_sublist (c : Nat) (ls : List (List α)) : (cut c ls).Sublist ls.flatten := by
  induction ls with
  | nil => exact .slnil
  | cons l ls ih =>
    rw [cut_cons, List.flatten_cons]
    exact (List.take_sublist c l).append ih

theorem cut_eq_flatten (h : ∀ l ∈ ls, l.length ≤ c) : cut c ls = ls.flatten := by
  induction ls with
  | nil => rfl
  | cons l ls ih =>
    obtain ⟨hl, hls⟩ := List.forall_mem_cons.mp h
    rw [cut_cons, List.take_of_length_le hl, ih hls, List.flatten_cons]

theorem fits_nil : Fits c n ([] : List (List α)) := by
  intro before l after h
  simp at h

theorem fits_cons :
    Fits c n (l :: ls) ↔ (l.length ≤ c ∨ n ≤ c) ∧ Fits c (n - (l.take c).length) ls := by
  constructor
  · intro h
    refine ⟨?_, ?_⟩
    · simpa [cut] using h [] l ls rfl
    · intro before l' after hls
      have := h (l :: before) l' after (by rw [hls]; rfl)
      rw [cut_cons, List.length_append] at this
      omega
  · rintro ⟨hfirst, hrest⟩ before l' after hls
    cases before with
    | nil =>
      obtain ⟨rfl, rfl⟩ := List.cons.inj hls
      simpa [cut] using hfirst
    | cons b before =>
      obtain ⟨rfl, htail⟩ := List.cons.inj hls
      have := hrest before l' after htail
      rw [cut_cons, List.length_append]
      omega

theorem fits_zero (c : Nat) (ls : List (List α)) : Fits c 0 ls :=
  fun _ _ _ _ => .inr (Nat.zero_le _)

/-- Where the lists share nothing, the first `n` of both are the same only if everything fits. -/
theorem take_flatten_eq_take_cut_iff (hls : ls.Pairwise fun l l' => ∀ x ∈ l, x ∉ l') :
    ls.flatten.take n = (cut c ls).take n ↔ Fits c n ls := by
  induction ls generalizing n with
  | nil => simp [cut, fits_nil]
  | cons l ls ih =>
    obtain ⟨hl, hls⟩ := List.pairwise_cons.mp hls
    rw [fits_cons, List.flatten_cons, cut_cons]
    by_cases hc : l.length ≤ c
    · rw [List.take_of_length_le hc, List.take_append, List.take_append, List.append_cancel_left_eq,
        ih hls]
      simp [hc]
    · have hlen : (l.take c).length = c := by rw [List.length_take]; omega
      by_cases hn : n ≤ c
      · rw [List.take_append_of_le_length (by omega), List.take_append_of_le_length (by omega),
          List.take_take, Nat.min_eq_left hn, hlen, Nat.sub_eq_zero_of_le hn]
        simp [hn, fits_zero]
      · -- Behind the cap of this list the two go on differently.
        have hleft : ((l ++ ls.flatten).take n)[c]? = l[c]? := by
          rw [List.getElem?_take_of_lt (by omega), List.getElem?_append_left (by omega)]
        have hright : ((l.take c ++ cut c ls).take n)[c]? = (cut c ls)[0]? := by
          rw [List.getElem?_take_of_lt (by omega), List.getElem?_append_right (by omega), hlen,
            Nat.sub_self]
        have hne : (l ++ ls.flatten).take n ≠ (l.take c ++ cut c ls).take n := by
          intro heq
          have hget : (cut c ls)[0]? = l[c]? := by rw [← hright, ← heq, hleft]
          have hlt : c < l.length := by omega
          rw [List.getElem?_eq_getElem hlt] at hget
          have hmem := (cut_sublist c ls).mem (List.mem_of_getElem? hget)
          obtain ⟨l', hl', hx⟩ := List.mem_flatten.mp hmem
          exact hl l' hl' _ (List.getElem_mem hlt) hx
        simp [hne, hc, hn]

/-- The caps are right about the first `n` and about whether there are more. -/
theorem cut_faithful_iff (hls : ls.Pairwise fun l l' => ∀ x ∈ l, x ∉ l') :
    (ls.flatten.take n = (cut c ls).take n ∧ (n < ls.flatten.length ↔ n < (cut c ls).length))
      ↔ (∀ l ∈ ls, l.length ≤ c) ∨ (n < (cut c ls).length ∧ Fits c n ls) := by
  have hle := (cut_sublist c ls).length_le
  constructor
  · rintro ⟨heq, hmore⟩
    by_cases hlt : n < (cut c ls).length
    · exact .inr ⟨hlt, (take_flatten_eq_take_cut_iff hls).mp heq⟩
    · left
      have hflat : ls.flatten = cut c ls := by
        rwa [List.take_of_length_le (by omega), List.take_of_length_le (by omega)] at heq
      intro l hl
      obtain ⟨before, after, hsplit⟩ := List.append_of_mem hl
      have hfits :=
        (take_flatten_eq_take_cut_iff (n := (cut c before).length + c + 1) (c := c) hls).mp
        (by rw [hflat])
      rcases hfits before l after hsplit with h | h
      · exact h
      · omega
  · rintro (hall | ⟨hlt, hfits⟩)
    · simp [cut_eq_flatten hall]
    · refine ⟨(take_flatten_eq_take_cut_iff hls).mpr hfits, ?_⟩
      omega

end TagLint
