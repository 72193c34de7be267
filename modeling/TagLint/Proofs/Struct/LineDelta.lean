import TagLint.Proofs.Text.Spans
import TagLint.Struct.Brace

/-! The brace count of a line, piece by piece. -/
namespace TagLint.Brace
open Text

variable {a b t : Text} {c : Char}

theorem rawSpan?_append (ht : backtick ∉ t) (b : Text) :
    rawSpan? (t ++ backtick :: b) = some (t.length + 1) := by
  rw [rawSpan?, findIdx?_append_cons ht]
  rfl

theorem withoutRaw_cons (hc : c ≠ backtick) (t : Text) :
    withoutRaw (c :: t) = c :: withoutRaw t := by
  rw [withoutRaw, if_neg hc]

theorem withoutRaw_append (ha : backtick ∉ a) (b : Text) :
    withoutRaw (a ++ b) = a ++ withoutRaw b := by
  induction a with
  | nil => rfl
  | cons c a ih =>
    obtain ⟨hc, ha⟩ := List.ne_and_not_mem_of_not_mem_cons ha
    rw [List.cons_append, withoutRaw_cons (Ne.symm hc), ih ha, List.cons_append]

theorem withoutRaw_of_not_mem (ha : backtick ∉ a) : withoutRaw a = a := by
  have h := withoutRaw_append ha []
  simpa [withoutRaw] using h

/-- A raw string is left out whole. -/
theorem withoutRaw_raw (ht : backtick ∉ t) (b : Text) :
    withoutRaw (backtick :: t ++ backtick :: b) = withoutRaw b := by
  rw [List.cons_append, withoutRaw, if_pos rfl, rawSpan?_append ht]
  simp

/-- Opening less closing braces, wherever they stand. -/
def balance (t : Text) : Int := (t.count '{' : Int) - (t.count '}' : Int)

theorem delta_eq_balance (t : Text) : delta t = balance (before "//" (withoutRaw t)) := rfl

theorem balance_append (a b : Text) : balance (a ++ b) = balance a + balance b := by
  simp only [balance, List.count_append]
  omega

theorem balance_of_not_mem (hopen : '{' ∉ t) (hclose : '}' ∉ t) : balance t = 0 := by
  simp [balance, List.count_eq_zero_of_not_mem hopen, List.count_eq_zero_of_not_mem hclose]

theorem balance_of_blank (ht : ∀ c ∈ t, isBlank c) : balance t = 0 := by
  apply balance_of_not_mem
  · exact not_mem_of_class ht (by decide)
  · exact not_mem_of_class ht (by decide)

end TagLint.Brace
