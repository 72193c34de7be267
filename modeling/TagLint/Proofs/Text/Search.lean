import TagLint.Proofs.Text.Spans

/-! What a search finds: the first place that the needle stands at. -/
namespace TagLint.Text

variable {needle r s t : Text} {i j start : Nat} {c : Char}

theorem find?_cons (needle : Text) (c : Char) (t : Text) :
    find? needle (c :: t) = if needle <+: c :: t then some 0 else (find? needle t).map (· + 1) := by
  by_cases h : needle <+: c :: t
  · rw [find?, if_pos (List.isPrefixOf_iff_prefix.mpr h), if_pos h]
  · rw [find?_cons_of_not_start h, if_neg h]

theorem prefix_of_find? (h : find? needle t = some i) : needle <+: t.drop i := by
  induction t generalizing i with
  | nil =>
    obtain ⟨hnil, rfl⟩ : needle = [] ∧ 0 = i := by simpa [find?] using h
    rw [hnil]
    exact List.nil_prefix
  | cons c t ih =>
    rw [find?_cons] at h
    split at h
    · rename_i hstart
      obtain rfl : 0 = i := by simpa using h
      exact hstart
    · obtain ⟨k, hk, rfl⟩ := Option.map_eq_some_iff.mp h
      exact ih hk

/-- Where the needle stands, the search has found it already. -/
theorem exists_find?_le (h : needle <+: t.drop j) : ∃ i ≤ j, find? needle t = some i := by
  induction t generalizing j with
  | nil =>
    have hnil : needle = [] := by simpa using h
    exact ⟨0, Nat.zero_le j, by simp [find?, hnil]⟩
  | cons c t ih =>
    rw [find?_cons]
    split
    · exact ⟨0, Nat.zero_le j, rfl⟩
    · rename_i hstart
      cases j with
      | zero => exact absurd h hstart
      | succ j =>
        obtain ⟨i, hle, hi⟩ := ih h
        exact ⟨i + 1, by omega, by rw [hi]; rfl⟩

/-- A needle that stands behind the start of a search stands in the text. -/
theorem add_length_le_of_prefix (hne : needle ≠ []) (h : needle <+: t.drop i) :
    i + needle.length ≤ t.length := by
  have hpos := List.length_pos_iff.mpr hne
  have hle := h.length_le
  rw [List.length_drop] at hle
  omega

theorem prefix_of_findFrom? (h : findFrom? needle start t = some i) :
    start ≤ i ∧ needle <+: t.drop i := by
  simp only [findFrom?, Option.ite_none_right_eq_some] at h
  obtain ⟨k, hk, rfl⟩ := Option.map_eq_some_iff.mp h.2
  have hstarts := prefix_of_find? hk
  rw [List.drop_drop, Nat.add_comm] at hstarts
  exact ⟨by omega, hstarts⟩

theorem exists_findFrom?_le (hne : needle ≠ []) (hj : start ≤ j) (h : needle <+: t.drop j) :
    ∃ i, findFrom? needle start t = some i ∧ start ≤ i ∧ i ≤ j := by
  have hlen := add_length_le_of_prefix hne h
  have hsplit : t.drop j = (t.drop start).drop (j - start) := by
    rw [List.drop_drop]
    congr 1
    omega
  rw [hsplit] at h
  obtain ⟨k, hle, hk⟩ := exists_find?_le h
  refine ⟨k + start, ?_, by omega, by omega⟩
  rw [findFrom?, if_pos (by omega), hk]
  rfl

/-- A needle that starts with no blank is found right behind the blanks that come first. -/
theorem findFrom?_of_blank (hne : needle ≠ []) (hs : ∀ c ∈ s, isBlank c)
    (hhead : ∀ c ∈ needle.head?, isBlank c = false) (h : t.drop start = s ++ r)
    (hr : needle <+: r) : findFrom? needle start t = some (start + s.length) := by
  have hplace : needle <+: t.drop (start + s.length) := by
    rw [← List.drop_drop, h, List.drop_left]
    exact hr
  obtain ⟨i, hi, hstart, hle⟩ := exists_findFrom?_le hne (Nat.le_add_right start s.length) hplace
  have hstarts := (prefix_of_findFrom? hi).2
  have hdrop : t.drop i = s.drop (i - start) ++ r := by
    have hsplit : i = start + (i - start) := by omega
    rw [hsplit, ← List.drop_drop, h, List.drop_append_of_le_length (by omega),
      Nat.add_sub_cancel_left]
  cases hrest : s.drop (i - start) with
  | nil =>
    have := List.drop_eq_nil_iff.mp hrest
    rw [hi]
    congr 1
    omega
  | cons c u =>
    -- A blank would stand at the head of the needle.
    obtain ⟨d, needle, rfl⟩ := List.exists_cons_of_ne_nil hne
    rw [hdrop, hrest, List.cons_append, List.cons_prefix_cons] at hstarts
    have hblank := hs c (List.mem_of_mem_drop (hrest ▸ List.mem_cons_self))
    have hnot := hhead d rfl
    rw [hstarts.1, hblank] at hnot
    exact absurd hnot (by decide)

end TagLint.Text
