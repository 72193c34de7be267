import TagLint.Proofs.Text.Case

/-! A text in lower case stays as it is when it is lower-cased again. -/
namespace TagLint.Text

variable {c x : Char} {s t before : Text} {r r' : Nat × Nat × Nat × Nat} {d n : Nat}

/-- Lower-casing leaves the character alone, wherever it stands. -/
structure Settled (c : Char) : Prop where
  lowerChar : lowerChar c = [c]
  ne_sigma : c.toNat ≠ 0x3A3

instance (c : Char) : Decidable (Settled c) :=
  decidable_of_iff (Text.lowerChar c = [c] ∧ c.toNat ≠ 0x3A3)
    ⟨fun h => ⟨h.1, h.2⟩, fun h => ⟨h.lowerChar, h.ne_sigma⟩⟩

/-! ## The table of partners -/

/-- The character is one of a run of characters that have a partner. -/
def InRun (r : Nat × Nat × Nat × Nat) (n : Nat) : Prop :=
  r.1 ≤ n ∧ n ≤ r.2.1 ∧ (n - r.1) % r.2.2.1 = 0

/-- The partners of the first run lie beside the second one, or between its characters. -/
def apart (r r' : Nat × Nat × Nat × Nat) : Bool :=
  r'.2.1.blt r.2.2.2 || (r.2.2.2 + (r.2.1 - r.1)).blt r'.1 ||
    ((r.2.2.1.beq 2 || r.1.beq r.2.1) && (r'.2.2.1.beq 2 && ((r.2.2.2 + r'.1) % 2).beq 1))

/-- The run of dotted I, which has no partner but a text of two characters. -/
def dottedRun : Nat × Nat × Nat × Nat := (0x130, 0x130, 1, 0)

theorem apart_lowerRuns :
    (lowerRuns.all fun r => (dottedRun :: lowerRuns).all (apart r)) = true := by
  decide +kernel

/-- One partner is no letter beyond ASCII: the letter of the Kelvin sign. -/
theorem image_of_mem_lowerRuns :
    ∀ r ∈ lowerRuns, 128 ≤ r.2.2.2 ∨ (r.2.2.2 = 0x6B ∧ r.1 = r.2.1) := by
  decide +kernel

theorem exists_sigma_run :
    ∃ r ∈ lowerRuns, r.1 ≤ 0x3A3 ∧ 0x3A3 ≤ r.2.1 ∧ (0x3A3 - r.1) % r.2.2.1 = 0 := by
  decide +kernel

theorem not_inRun_of_apart (h : apart r r') (hd : d ≤ r.2.1 - r.1) (hstep : d % r.2.2.1 = 0) :
    ¬ InRun r' (r.2.2.2 + d) := by
  rintro ⟨hfirst, hlast, hmod⟩
  simp only [apart, Bool.or_eq_true, Bool.and_eq_true, Nat.blt_eq, Nat.beq_eq] at h
  rcases h with (h | h) | ⟨hone, htwo, hodd⟩
  · omega
  · omega
  · rw [htwo] at hmod
    have heven : d % 2 = 0 := by
      rcases hone with hone | hone
      · rwa [hone] at hstep
      · omega
    omega

theorem not_inRun_of_mem (hr : r ∈ lowerRuns) (hd : d ≤ r.2.1 - r.1) (hstep : d % r.2.2.1 = 0)
    (hr' : r' ∈ dottedRun :: lowerRuns) : ¬ InRun r' (r.2.2.2 + d) := by
  have hall := List.all_eq_true.mp (List.all_eq_true.mp apart_lowerRuns r hr) r' hr'
  exact not_inRun_of_apart hall hd hstep

/-! ## Characters -/

theorem settled_toLower : ∀ n < 128, Settled (Char.ofNat n).toLower := by decide +kernel

theorem settled_dotted : Settled (Char.ofNat 0x69) ∧ Settled (Char.ofNat 0x307) := by decide +kernel

theorem settled_finalSigma : Settled finalSigma := by decide +kernel

/-- What stands for a number that is no character. -/
theorem settled_zero : Settled (Char.ofNat 0) := by decide +kernel

theorem settled_of_not_inRun (hascii : 128 ≤ c.toNat)
    (hruns : ∀ r ∈ dottedRun :: lowerRuns, ¬ InRun r c.toNat) : Settled c := by
  obtain ⟨hdotted, hruns⟩ := List.forall_mem_cons.mp hruns
  have hne : c.toNat ≠ 0x130 := by
    intro h
    exact hdotted ⟨by rw [h]; decide, by rw [h]; decide, by rw [h]; decide⟩
  refine ⟨?_, ?_⟩
  · rw [lowerChar, if_neg (by omega), if_neg hne]
    split
    · rename_i first last step image hfound
      have hin := List.find?_some hfound
      simp only [Bool.and_eq_true, decide_eq_true_eq, beq_iff_eq] at hin
      exact absurd ⟨hin.1.1, hin.1.2, hin.2⟩ (hruns _ (List.mem_of_find?_eq_some hfound))
    · rfl
  · intro hsigma
    obtain ⟨r, hr, hin⟩ := exists_sigma_run
    exact hruns r hr (by rw [hsigma]; exact hin)

theorem settled_image (hr : r ∈ lowerRuns) (hd : d ≤ r.2.1 - r.1) (hstep : d % r.2.2.1 = 0) :
    Settled (Char.ofNat (r.2.2.2 + d)) := by
  rcases toNat_ofNat_cases (r.2.2.2 + d) with heq | heq
  · rcases image_of_mem_lowerRuns r hr with hbeyond | ⟨hkelvin, hsingle⟩
    · refine settled_of_not_inRun (by rw [heq]; omega) ?_
      intro r' hr'
      rw [heq]
      exact not_inRun_of_mem hr hd hstep hr'
    · obtain rfl : d = 0 := by omega
      rw [hkelvin]
      decide +kernel
  · rw [← Char.ofNat_toNat (Char.ofNat (r.2.2.2 + d)), heq]
    exact settled_zero

/-- What a character becomes is left alone. -/
theorem settled_of_mem_lowerChar (hx : x ∈ lowerChar c) : Settled x := by
  rw [lowerChar] at hx
  split at hx
  · rename_i hascii
    obtain rfl : x = c.toLower := by simpa using hx
    have hsettled := settled_toLower c.toNat hascii
    rwa [Char.ofNat_toNat] at hsettled
  · rename_i hascii
    split at hx
    · rcases List.mem_cons.mp hx with rfl | hx
      · exact settled_dotted.1
      · obtain rfl := List.mem_singleton.mp hx
        exact settled_dotted.2
    · rename_i hdotted
      split at hx
      · rename_i first last step image hfound
        obtain rfl := List.mem_singleton.mp hx
        have hin := List.find?_some hfound
        simp only [Bool.and_eq_true, decide_eq_true_eq, beq_iff_eq] at hin
        exact settled_image (List.mem_of_find?_eq_some hfound) (by simp only; omega) hin.2
      · rename_i hnone
        obtain rfl := List.mem_singleton.mp hx
        refine settled_of_not_inRun (by omega) ?_
        rw [List.forall_mem_cons]
        refine ⟨?_, ?_⟩
        · rintro ⟨hfirst, hlast, -⟩
          exact hdotted (Nat.le_antisymm hlast hfirst)
        · rintro ⟨first, last, step, image⟩ hr ⟨hfirst, hlast, hmod⟩
          refine List.find?_eq_none.mp hnone _ hr ?_
          simp only [Bool.and_eq_true, decide_eq_true_eq, beq_iff_eq]
          exact ⟨⟨hfirst, hlast⟩, hmod⟩

/-! ## Texts -/

theorem settled_of_mem_lowerFrom (hx : x ∈ lowerFrom before t) : Settled x := by
  induction t generalizing before with
  | nil => simp [lowerFrom] at hx
  | cons c t ih =>
    rw [lowerFrom] at hx
    rcases List.mem_append.mp hx with hx | hx
    · split at hx
      · obtain rfl := List.mem_singleton.mp hx
        exact settled_finalSigma
      · exact settled_of_mem_lowerChar hx
    · exact ih hx

theorem lowerFrom_of_settled (hs : ∀ c ∈ s, Settled c) : lowerFrom before s = s := by
  induction s generalizing before with
  | nil => rfl
  | cons c s ih =>
    obtain ⟨hc, hs⟩ := List.forall_mem_cons.mp hs
    rw [lowerFrom, if_neg (by simp [hc.ne_sigma]), hc.lowerChar, ih hs]
    rfl

@[simp] theorem lower_lower (t : Text) : lower (lower t) = lower t :=
  lowerFrom_of_settled fun _ hx => settled_of_mem_lowerFrom hx

end TagLint.Text
