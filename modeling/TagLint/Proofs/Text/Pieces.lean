import TagLint.Proofs.Text.Spans

/-! Trimmed and cut-out pieces of a text stand in the text. -/
namespace TagLint.Text

variable {s t piece : Text} {sep c : Char}

theorem trimRight_isPrefix (t : Text) : trimRight t <+: t := by
  rw [← List.reverse_suffix, trimRight, List.reverse_reverse]
  exact List.dropWhile_suffix isBlank

theorem trim_isInfix (t : Text) : trim t <:+: t :=
  (trimRight_isPrefix _).isInfix.trans (List.dropWhile_suffix isBlank).isInfix

/-- Trimming takes blanks at both ends. -/
theorem exists_eq_append_trim (t : Text) :
    ∃ a b, (∀ c ∈ a, isBlank c) ∧ (∀ c ∈ b, isBlank c) ∧ t = a ++ (trim t ++ b) := by
  obtain ⟨a, ha, hleft⟩ := exists_eq_append_trimLeft t
  obtain ⟨b, hb, hright⟩ := exists_eq_append_trimLeft (trimLeft t).reverse
  refine ⟨a, b.reverse, ha, fun c hc => hb c (List.mem_reverse.mp hc), ?_⟩
  have hend := congrArg List.reverse hright
  rw [List.reverse_append, List.reverse_reverse] at hend
  rw [trim, trimRight, ← trimLeft, ← hend, ← hleft]

/-! ## The ends of a trimmed text -/

theorem head?_trim (t : Text) : ∀ c ∈ (trim t).head?, isBlank c = false := by
  intro c hc
  obtain ⟨r, hr⟩ := trimRight_isPrefix (trimLeft t)
  apply head?_dropWhile_eq_false isBlank t
  rw [← trimLeft, ← hr, List.head?_append]
  exact Option.mem_def.mpr (by rw [trim] at hc; rw [Option.mem_def.mp hc]; rfl)

theorem getLast?_trim (t : Text) : ∀ c ∈ (trim t).getLast?, isBlank c = false := by
  intro c hc
  rw [trim, trimRight, List.getLast?_reverse] at hc
  exact head?_dropWhile_eq_false isBlank _ c hc

theorem trim_of_ends (hhead : ∀ c ∈ t.head?, isBlank c = false)
    (hlast : ∀ c ∈ t.getLast?, isBlank c = false) : trim t = t := by
  have h := trimRight_append hlast []
  rw [List.append_nil] at h
  rw [trim, trimLeft_of_head? hhead, h]
  exact List.append_nil t

@[simp] theorem trim_trim (t : Text) : trim (trim t) = trim t :=
  trim_of_ends (head?_trim t) (getLast?_trim t)

/-- A text that is not blank all through is not trimmed away. -/
theorem trim_ne_nil (hc : c ∈ t) (hblank : isBlank c = false) : trim t ≠ [] := by
  intro hnil
  have hleft : trimLeft t = [] := by
    cases h : trimLeft t with
    | nil => rfl
    | cons d r =>
      have hd : isBlank d = false :=
        head?_dropWhile_eq_false isBlank t d (by rw [← trimLeft, h]; rfl)
      have := trimRight_append (s := [d]) (by simpa using hd) r
      rw [trim, h, ← List.singleton_append, this] at hnil
      simp at hnil
  obtain ⟨s, hs, ht⟩ := exists_eq_append_trimLeft t
  rw [hleft, List.append_nil] at ht
  rw [ht] at hc
  rw [hs c hc] at hblank
  exact absurd hblank (by decide)

/-! ## Split texts -/

theorem prefix_of_split_eq_cons {pieces : List Text} (h : split sep t = piece :: pieces) :
    piece <+: t := by
  induction t generalizing piece pieces with
  | nil =>
    obtain ⟨rfl, -⟩ : [] = piece ∧ [] = pieces := by simpa [split] using h
    exact List.nil_prefix
  | cons c t ih =>
    rw [split] at h
    split at h
    · obtain ⟨rfl, -⟩ := List.cons.inj h
      exact List.nil_prefix
    · split at h
      · obtain ⟨rfl, -⟩ := List.cons.inj h
        exact List.prefix_append [c] t
      · rename_i first pieces hsplit
        obtain ⟨rfl, -⟩ := List.cons.inj h
        exact List.cons_prefix_cons.mpr ⟨rfl, ih hsplit⟩

theorem infix_of_mem_split (h : piece ∈ split sep t) : piece <:+: t := by
  induction t generalizing piece with
  | nil =>
    obtain rfl : piece = [] := by simpa [split] using h
    exact List.nil_infix
  | cons c t ih =>
    cases hsplit : split sep (c :: t) with
    | nil => simp [hsplit] at h
    | cons first pieces =>
      rw [hsplit] at h
      rcases List.mem_cons.mp h with rfl | h
      · exact (prefix_of_split_eq_cons hsplit).isInfix
      · -- The pieces behind the first one are pieces of the rest.
        suffices hrest : piece ∈ split sep t from (ih hrest).trans (List.suffix_cons c t).isInfix
        rw [split] at hsplit
        split at hsplit
        · obtain ⟨-, rfl⟩ := List.cons.inj hsplit
          exact h
        · split at hsplit
          · obtain ⟨-, rfl⟩ := List.cons.inj hsplit
            simp at h
          · rename_i hrest
            obtain ⟨-, rfl⟩ := List.cons.inj hsplit
            rw [hrest]
            exact List.mem_cons_of_mem _ h

end TagLint.Text
