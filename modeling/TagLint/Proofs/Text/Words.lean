import TagLint.Proofs.Text.Spans

/-! The words of a text, and what a character between two texts keeps apart. -/
namespace TagLint.Text

variable {a b s t u w : Text} {c : Char}

/-! ## Words -/

/-- The parts between blanks. -/
def words (t : Text) : List Text := (t.splitOnP isBlank).filter (· ≠ [])

theorem words_append_cons (hc : isBlank c) (s t : Text) :
    words (s ++ c :: t) = words s ++ words t := by
  rw [words, List.splitOnP_append_cons s t hc, List.filter_append, words, words]

theorem words_cons (hc : isBlank c) (t : Text) : words (c :: t) = words t :=
  words_append_cons hc [] t

theorem words_append_of_blank (hne : b ≠ []) (hb : ∀ c ∈ b, isBlank c) (s t : Text) :
    words (s ++ (b ++ t)) = words s ++ words t := by
  induction b generalizing s with
  | nil => exact absurd rfl hne
  | cons c b ih =>
    obtain ⟨hc, hb⟩ := List.forall_mem_cons.mp hb
    rw [List.cons_append, words_append_cons hc]
    cases b with
    | nil => rfl
    | cons d b =>
      have hrest := ih (by simp) hb []
      rw [List.nil_append] at hrest
      rw [hrest]
      rfl

theorem words_blank_append (hb : ∀ c ∈ b, isBlank c) (t : Text) : words (b ++ t) = words t := by
  induction b with
  | nil => rfl
  | cons c b ih =>
    obtain ⟨hc, hb⟩ := List.forall_mem_cons.mp hb
    rw [List.cons_append, words_cons hc, ih hb]

@[simp] theorem words_nil : words [] = [] := by
  simp [words, List.splitOnP_nil]

theorem words_append_blank (hb : ∀ c ∈ b, isBlank c) (s : Text) : words (s ++ b) = words s := by
  by_cases hne : b = []
  · rw [hne, List.append_nil]
  · have h := words_append_of_blank hne hb s []
    rwa [List.append_nil, words_nil, List.append_nil] at h

theorem words_of_not_blank (hne : w ≠ []) (hw : ∀ c ∈ w, isBlank c = false) : words w = [w] := by
  rw [words, List.splitOnP_eq_singleton hw]
  simp [hne]

/-- A text with a word in front. -/
theorem words_ne_nil_of_head (hc : isBlank c = false) (t : Text) : words (c :: t) ≠ [] := by
  have hsplit := List.takeWhile_append_dropWhile (p := fun d => !isBlank d) (l := c :: t)
  have hw : ∀ d ∈ (c :: t).takeWhile (fun d => !isBlank d), isBlank d = false := by
    intro d hd
    simpa using List.all_eq_true.mp List.all_takeWhile d hd
  have hne : (c :: t).takeWhile (fun d => !isBlank d) ≠ [] := by simp [hc]
  cases hr : (c :: t).dropWhile (fun d => !isBlank d) with
  | nil =>
    rw [hr, List.append_nil] at hsplit
    rw [← hsplit, words_of_not_blank hne hw]
    simp
  | cons d r =>
    have hd : isBlank d := by
      have := head?_dropWhile_eq_false _ (c :: t) d (by rw [hr]; rfl)
      simpa using this
    rw [hr] at hsplit
    rw [← hsplit, words_append_cons hd, words_of_not_blank hne hw]
    simp

theorem words_ne_nil (hc : c ∈ t) (hblank : isBlank c = false) : words t ≠ [] := by
  induction t with
  | nil => simp at hc
  | cons d t ih =>
    cases hd : isBlank d with
    | false => exact words_ne_nil_of_head hd t
    | true =>
      rw [words_cons hd]
      refine ih ((List.mem_cons.mp hc).resolve_left ?_)
      rintro rfl
      simp [hd] at hblank

/-! ## Separators -/

/-- Where a character cannot be crossed, the text stands before it or behind it. -/
theorem infix_append_cons_iff (hc : c ∉ u) : u <:+: s ++ c :: t ↔ u <:+: s ∨ u <:+: t := by
  constructor
  · rintro ⟨x, y, h⟩
    rcases List.append_eq_append_iff.mp h with ⟨r, rfl, -⟩ | ⟨r, hr, hy⟩
    · exact .inl ⟨x, r, rfl⟩
    · cases r with
      | nil => exact .inl ⟨x, [], by simpa using hr⟩
      | cons d r =>
        obtain ⟨rfl, rfl⟩ := List.cons.inj hy
        rcases List.append_eq_append_iff.mp hr with ⟨z, rfl, rfl⟩ | ⟨z, rfl, hz⟩
        · exact absurd (by simp) hc
        · cases z with
          | nil =>
            rw [List.nil_append] at hz
            rw [← hz] at hc
            exact absurd List.mem_cons_self hc
          | cons e z =>
            obtain ⟨rfl, rfl⟩ := List.cons.inj hz
            exact .inr ⟨z, y, rfl⟩
  · rintro (h | h)
    · exact h.trans (List.prefix_append s _).isInfix
    · exact h.trans ((List.suffix_cons c t).trans (List.suffix_append s _)).isInfix

theorem prefix_append_cons_iff (hc : c ∉ u) : u <+: s ++ c :: t ↔ u <+: s := by
  constructor
  · intro h
    rcases List.prefix_or_prefix_of_prefix h (List.prefix_append s _) with h' | ⟨v, rfl⟩
    · exact h'
    · cases v with
      | nil => simp
      | cons d v =>
        rw [List.prefix_append_right_inj, List.cons_prefix_cons] at h
        obtain ⟨rfl, -⟩ := h
        exact absurd (by simp) hc
  · exact fun h => h.trans (List.prefix_append s _)

end TagLint.Text
