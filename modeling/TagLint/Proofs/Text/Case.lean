import TagLint.Proofs.Text.Spans
import TagLint.Text.Case

/-! Texts that lower-casing cannot lead to, unless they were there before. -/
namespace TagLint.Text

variable {s t : Text} {c x : Char}

/-- The characters of the keys that are no words. -/
def arrows : Text := "<->"

theorem lt_image_of_mem_lowerRuns : ∀ r ∈ lowerRuns, 0x3E < r.2.2.2 := by decide +kernel

theorem toLower_of_mem_arrows : ∀ n < 128, (Char.ofNat n).toLower ∈ arrows →
    (Char.ofNat n).toLower = Char.ofNat n := by
  decide +kernel

theorem toNat_le_of_mem_arrows (hx : x ∈ arrows) : 0 < x.toNat ∧ x.toNat ≤ 0x3E := by
  revert x
  decide

theorem toNat_ofNat_cases (n : Nat) : (Char.ofNat n).toNat = n ∨ (Char.ofNat n).toNat = 0 := by
  by_cases hn : n.isValidChar
  · left
    rw [Char.ofNat, dif_pos hn]
    rfl
  · right
    rw [Char.ofNat, dif_neg hn]
    rfl

/-- No other character has an arrow in its lower case. -/
theorem lowerChar_of_mem_arrows (h : x ∈ lowerChar c) (hx : x ∈ arrows) : lowerChar c = [c] := by
  have hle := toNat_le_of_mem_arrows hx
  rw [lowerChar] at h ⊢
  split
  · rename_i hlt
    rw [if_pos hlt] at h
    obtain rfl : x = c.toLower := by simpa using h
    have hsame := toLower_of_mem_arrows c.toNat hlt
    rw [Char.ofNat_toNat] at hsame
    rw [hsame hx]
  · rename_i hlt
    rw [if_neg hlt] at h
    split
    · rename_i hdot
      rw [if_pos hdot] at h
      exfalso
      revert x
      decide
    · rename_i hdot
      rw [if_neg hdot] at h
      split at h
      · rename_i first last step image hfound
        exfalso
        have himage := lt_image_of_mem_lowerRuns _ (List.mem_of_find?_eq_some hfound)
        obtain rfl : x = Char.ofNat (image + (c.toNat - first)) := by simpa using h
        rcases toNat_ofNat_cases (image + (c.toNat - first)) with heq | heq <;>
        · rw [heq] at hle
          simp only at himage
          omega
      · rfl

theorem lowerChar_ne_nil (c : Char) : lowerChar c ≠ [] := by
  rw [lowerChar]
  split
  · simp
  · split
    · simp
    · split <;> simp

theorem lower_eq_nil_iff : lower t = [] ↔ t = [] := by
  cases t with
  | nil => exact ⟨fun _ => rfl, fun _ => rfl⟩
  | cons c t =>
    rw [lower, lowerFrom]
    split <;> simp [lowerChar_ne_nil]

theorem eq_of_lowerFrom {before : Text} (hs : ∀ c ∈ s, c ∈ arrows) (h : lowerFrom before t = s) :
    t = s := by
  induction t generalizing before s with
  | nil => exact h
  | cons c t ih =>
    rw [lowerFrom] at h
    subst h
    obtain ⟨hfirst, hrest⟩ := List.forall_mem_append.mp hs
    have hstep := ih hrest rfl
    split at hfirst
    · exact absurd (hfirst finalSigma (by simp)) (by decide)
    · rename_i hsigma
      obtain ⟨x, r, hx⟩ := List.exists_cons_of_ne_nil (lowerChar_ne_nil c)
      have hself := lowerChar_of_mem_arrows (c := c) (x := x) (by rw [hx]; exact List.mem_cons_self)
        (hfirst x (by rw [hx]; exact List.mem_cons_self))
      rw [if_neg hsigma, hself, ← hstep]
      rfl

/-- A text of arrows is the lower case of itself alone. -/
theorem eq_of_lower_eq (hs : ∀ c ∈ s, c ∈ arrows) (h : lower t = s) : t = s :=
  eq_of_lowerFrom hs h

end TagLint.Text
