import TagLint.Proofs.Text.Spans
import TagLint.Struct.Extract

/-! Struct headers as they are written, and the search for them. -/
namespace TagLint.Header
open Text

/-- The texts of a header for a name: three words and an opening brace, with blanks between. -/
inductive Spelled (name : Text) : Text → Prop where
  | mk {b₁ b₂ b₃ : Text} (hname : name ≠ []) (hword : ∀ c ∈ name, isWord c)
      (hne₁ : b₁ ≠ []) (hne₂ : b₂ ≠ []) (h₁ : ∀ c ∈ b₁, isBlank c) (h₂ : ∀ c ∈ b₂, isBlank c)
      (h₃ : ∀ c ∈ b₃, isBlank c) :
      Spelled name ("type".toList ++ (b₁ ++ (name ++ (b₂ ++ ("struct".toList ++ (b₃ ++ ['{']))))))

variable {name header cs rest : Text}

theorem match?_of_spelled (h : Spelled name header) (rest : Text) :
    match? (header ++ rest) = some (name, rest) := by
  obtain ⟨hname, hword, hne₁, hne₂, h₁, h₂, h₃⟩ := h
  rename_i b₁ b₂ b₃
  simp only [match?, List.append_assoc, after?_append, Option.bind_eq_bind, Option.bind_some]
  rw [afterBlanks?_append hne₁ h₁ (head?_append_of_ne_nil hname
    (fun c hc => isBlank_eq_false_of_isWord (hword c hc)) _), Option.bind_some]
  have hstop : ∀ t : Text, ∀ c ∈ (b₂ ++ t).head?, isWord c = false :=
    head?_append_of_ne_nil hne₂ fun c hc => isWord_eq_false_of_isBlank (h₂ c hc)
  rw [takeWhile_append_of_stop hword (hstop _), dropWhile_append_of_stop hword (hstop _),
    afterBlanks?_append hne₂ h₂ (by simp; decide), Option.bind_some, after?_append,
    Option.bind_some,
    trimLeft_append_of_blank h₃]
  simp [trimLeft_cons (c := '{') (by decide), hname]

theorem spelled_of_match? (h : match? cs = some (name, rest)) :
    ∃ header, Spelled name header ∧ cs = header ++ rest := by
  simp only [match?, Option.bind_eq_bind, Option.bind_eq_some_iff] at h
  obtain ⟨t₁, ht₁, t₂, ht₂, t₃, ht₃, t₄, ht₄, h⟩ := h
  rw [after?_eq_some_iff] at ht₁ ht₄
  obtain ⟨b₁, hne₁, h₁, -, rfl⟩ := afterBlanks?_eq_some_iff.mp ht₂
  obtain ⟨b₂, hne₂, h₂, -, hdrop⟩ := afterBlanks?_eq_some_iff.mp ht₃
  obtain ⟨b₃, h₃, hb₃⟩ := exists_eq_append_trimLeft t₄
  split at h
  · rename_i body hbody
    split at h
    · simp at h
    · rename_i hname
      simp only [Option.some.injEq, Prod.mk.injEq] at h
      obtain ⟨rfl, rfl⟩ := h
      have hword : ∀ c ∈ t₂.takeWhile isWord, isWord c :=
        fun _ hc => List.all_eq_true.mp List.all_takeWhile _ hc
      refine ⟨_, .mk hname hword hne₁ hne₂ h₁ h₂ h₃, ?_⟩
      have hsplit :
          t₂ = t₂.takeWhile isWord ++ (b₂ ++ ("struct".toList ++ (b₃ ++ '{' :: body))) := by
        rw [← hbody, ← hb₃, ← ht₄, ← hdrop, List.takeWhile_append_dropWhile]
      rw [ht₁]
      simpa using congrArg (fun t => "type".toList ++ (b₁ ++ t)) hsplit
  · simp at h

/-- The matcher accepts exactly the spellings of a header. -/
theorem match?_eq_some_iff :
    match? cs = some (name, rest) ↔ ∃ header, Spelled name header ∧ cs = header ++ rest := by
  constructor
  · exact spelled_of_match?
  · rintro ⟨header, h, rfl⟩
    exact match?_of_spelled h rest

theorem Spelled.ne_nil (h : Spelled name header) : header ≠ [] := by
  cases h
  simp

theorem Spelled.not_mem_close (h : Spelled name header) : '}' ∉ header := by
  obtain ⟨hname, hword, hne₁, hne₂, h₁, h₂, h₃⟩ := h
  have hblank : ∀ {s : Text}, (∀ c ∈ s, isBlank c) → '}' ∉ s :=
    fun hs => not_mem_of_class hs (by decide)
  have hname : '}' ∉ name := not_mem_of_class hword (by decide)
  simp [hblank h₁, hblank h₂, hblank h₃, hname]

end TagLint.Header
