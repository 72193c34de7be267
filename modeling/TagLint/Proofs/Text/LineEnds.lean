import Mathlib.Data.List.Forall2
import TagLint.Proofs.Struct.LineDelta
import TagLint.Proofs.Text.Search

/-! Line ends of two characters: what reading by lines makes of them. -/
namespace TagLint
namespace Text

variable {needle l l' s t : Text} {ls ls' : List Text} {c : Char} {i n start : Nat}

/-- Every newline, with a carriage return before it. -/
def crlf (t : Text) : Text := replaceAll '\n' "\r\n" t

@[simp] theorem crlf_nil : crlf [] = [] := rfl

@[simp] theorem crlf_newline (t : Text) : crlf ('\n' :: t) = '\r' :: '\n' :: crlf t := rfl

theorem crlf_cons (hc : c ≠ '\n') (t : Text) : crlf (c :: t) = c :: crlf t := by
  simp [crlf, replaceAll, hc]

@[simp] theorem crlf_append (s t : Text) : crlf (s ++ t) = crlf s ++ crlf t :=
  List.flatMap_append

@[simp] theorem crlf_eq_nil_iff : crlf t = [] ↔ t = [] := by
  cases t with
  | nil => simp
  | cons c t =>
    by_cases hc : c = '\n'
    · simp [hc]
    · simp [crlf_cons hc]

theorem crlf_of_not_mem (ht : '\n' ∉ t) : crlf t = t := by
  induction t with
  | nil => rfl
  | cons c t ih =>
    obtain ⟨hc, ht⟩ := List.ne_and_not_mem_of_not_mem_cons ht
    rw [crlf_cons (Ne.symm hc), ih ht]

theorem length_crlf (t : Text) : (crlf t).length = t.length + t.count '\n' := by
  induction t with
  | nil => rfl
  | cons c t ih =>
    by_cases hc : c = '\n'
    · subst hc
      simp only [crlf_newline, List.length_cons, List.count_cons_self, ih]
      omega
    · simp only [crlf_cons hc, List.length_cons, List.count_cons_of_ne hc, ih]
      omega

/-! ## Reading from the start -/

section

variable {p : Char → Bool}

/-- Both characters of a line end are in the class, or neither is. -/
theorem takeWhile_crlf (hp : p '\r' = p '\n') (t : Text) :
    (crlf t).takeWhile p = crlf (t.takeWhile p) := by
  induction t with
  | nil => rfl
  | cons c t ih =>
    by_cases hc : c = '\n'
    · subst hc
      cases hn : p '\n' with
      | true => simp [hp, hn, ih]
      | false => simp [hp, hn]
    · cases hn : p c with
      | true => simp [crlf_cons hc, hn, ih]
      | false => simp [crlf_cons hc, hn]

theorem dropWhile_crlf (hp : p '\r' = p '\n') (t : Text) :
    (crlf t).dropWhile p = crlf (t.dropWhile p) := by
  have hsplit : crlf t = crlf (t.takeWhile p) ++ crlf (t.dropWhile p) := by
    rw [← crlf_append, List.takeWhile_append_dropWhile]
  have hsplit' := List.takeWhile_append_dropWhile (p := p) (l := crlf t)
  rw [takeWhile_crlf hp, hsplit] at hsplit'
  rw [hsplit]
  exact List.append_cancel_left hsplit'

end

theorem trimLeft_crlf (t : Text) : trimLeft (crlf t) = crlf (trimLeft t) :=
  dropWhile_crlf (by decide) t

theorem afterBlanks?_crlf (t : Text) : afterBlanks? (crlf t) = (afterBlanks? t).map crlf := by
  have hlt : (crlf (trimLeft t)).length < (crlf t).length ↔ (trimLeft t).length < t.length := by
    have hsub : (trimLeft t).Sublist t := List.dropWhile_sublist isBlank
    have hcount := hsub.count_le '\n'
    rw [length_crlf, length_crlf]
    constructor
    · intro h
      by_contra hge
      have hsame : trimLeft t = t := hsub.eq_of_length_le (by omega)
      rw [hsame] at h
      omega
    · omega
  simp only [afterBlanks?, trimLeft_crlf, hlt]
  split <;> rfl

theorem after?_cons_cons (c d : Char) (s t : Text) :
    after? (c :: s) (d :: t) = if c = d then after? s t else none := by
  by_cases hc : c = d <;> simp [after?, hc]

/-- A needle without line ends starts both texts, or none. -/
theorem after?_crlf (hn : '\n' ∉ s) (hr : '\r' ∉ s) (t : Text) :
    after? s (crlf t) = (after? s t).map crlf := by
  induction s generalizing t with
  | nil => simp [after?]
  | cons c s ih =>
    obtain ⟨hcn, hn⟩ := List.ne_and_not_mem_of_not_mem_cons hn
    obtain ⟨hcr, hr⟩ := List.ne_and_not_mem_of_not_mem_cons hr
    cases t with
    | nil => rfl
    | cons d t =>
      by_cases hd : d = '\n'
      · subst hd
        rw [crlf_newline, after?_cons_cons, if_neg (Ne.symm hcr), after?_cons_cons,
          if_neg (Ne.symm hcn)]
        rfl
      · rw [crlf_cons hd, after?_cons_cons, after?_cons_cons, ih hn hr]
        split <;> rfl

/-! ## Blanks behind a text -/

theorem trimRight_append_of_blank (hs : ∀ c ∈ s, isBlank c) (t : Text) :
    trimRight (t ++ s) = trimRight t := by
  have hrev : ∀ c ∈ s.reverse, isBlank c := fun c hc => hs c (List.mem_reverse.mp hc)
  rw [trimRight, List.reverse_append, List.dropWhile_append_of_pos hrev, trimRight]

theorem trim_append_of_blank (hs : ∀ c ∈ s, isBlank c) (t : Text) : trim (t ++ s) = trim t := by
  rw [trim, trimLeft, List.dropWhile_append]
  split
  · rename_i hempty
    have hnil : t.dropWhile isBlank = [] := by simpa using hempty
    have hs' : s.dropWhile isBlank = [] := trimLeft_eq_nil hs
    rw [trim, trimLeft, hnil, hs']
  · rw [trimRight_append_of_blank hs]
    rfl

theorem prefix_concat_iff_of_not_mem (hc : c ∉ needle) : needle <+: t ++ [c] ↔ needle <+: t := by
  rw [List.prefix_concat_iff]
  constructor
  · rintro (rfl | h)
    · simp at hc
    · exact h
  · exact .inr

theorem find?_concat (hne : needle ≠ []) (hc : c ∉ needle) (t : Text) :
    find? needle (t ++ [c]) = find? needle t := by
  induction t with
  | nil =>
    have hnot : ¬ needle <+: [c] := by
      have hiff := prefix_concat_iff_of_not_mem (t := []) hc
      rw [List.nil_append] at hiff
      rw [hiff]
      simpa using hne
    rw [List.nil_append, find?_cons, if_neg hnot]
    simp [find?, hne]
  | cons d t ih =>
    have hiff := prefix_concat_iff_of_not_mem (t := d :: t) hc
    rw [List.cons_append] at hiff ⊢
    rw [find?_cons, find?_cons, ih]
    simp only [hiff]

theorem findFrom?_concat (hne : needle ≠ []) (hc : c ∉ needle) (start : Nat) (t : Text) :
    findFrom? needle start (t ++ [c]) = findFrom? needle start t := by
  rw [findFrom?, findFrom?, List.length_append]
  by_cases hstart : start ≤ t.length
  · rw [if_pos (by omega), if_pos hstart, List.drop_append_of_le_length hstart, find?_concat hne hc]
  · rw [if_neg hstart]
    split
    · rw [List.drop_of_length_le (by simp; omega)]
      simp [find?, hne]
    · rfl

theorem before_concat (hne : needle ≠ []) (hc : c ∉ needle) (t : Text) :
    before needle (t ++ [c]) = before needle t ∨
    before needle (t ++ [c]) = before needle t ++ [c] := by
  rw [before, before, find?_concat hne hc]
  cases h : find? needle t with
  | none => exact .inr rfl
  | some i =>
    have hle := add_length_le_of_prefix hne (prefix_of_find? h)
    left
    exact List.take_append_of_le_length (by omega)

/-! ## Lines -/

/-- The same line, perhaps with a carriage return at its end. -/
def SameLine (l l' : Text) : Prop := l' = l ∨ l' = l ++ ['\r']

theorem lines_crlf (t : Text) : List.Forall₂ SameLine (lines t) (lines (crlf t)) := by
  simp only [lines]
  induction t with
  | nil => exact .cons (.inl rfl) .nil
  | cons c t ih =>
    by_cases hc : c = '\n'
    · subst hc
      rw [crlf_newline, split, if_pos rfl, split, if_neg (by decide), split, if_pos rfl]
      exact .cons (.inr rfl) ih
    · rw [crlf_cons hc, split, if_neg hc, split, if_neg hc]
      cases hl : split '\n' t with
      | nil =>
        rw [hl] at ih
        rw [List.forall₂_nil_left_iff.mp ih]
        exact .cons (.inl rfl) .nil
      | cons l ls =>
        rw [hl] at ih
        obtain ⟨l', ls', hline, hlines, hl'⟩ := List.forall₂_cons_left_iff.mp ih
        rw [hl']
        refine .cons ?_ hlines
        rcases hline with rfl | rfl
        · exact .inl rfl
        · exact .inr rfl

theorem SameLine.trim_eq (h : SameLine l l') : trim l' = trim l := by
  rcases h with rfl | rfl
  · rfl
  · exact trim_append_of_blank (by decide) l

theorem SameLine.findFrom?_eq (h : SameLine l l') (hne : needle ≠ []) (hneedle : '\r' ∉ needle)
    (start : Nat) : findFrom? needle start l' = findFrom? needle start l := by
  rcases h with rfl | rfl
  · rfl
  · exact findFrom?_concat hne hneedle start l

theorem map_trim_lines_crlf (t : Text) : (lines (crlf t)).map trim = (lines t).map trim := by
  rw [← List.forall₂_eq_eq_eq, List.forall₂_map_left_iff, List.forall₂_map_right_iff]
  exact (lines_crlf t).flip.imp fun l' l (h : SameLine l l') => h.trim_eq

end Text

namespace Brace
open Text

variable {l l' t : Text} {c : Char}

theorem rawSpan?_concat (hc : c ≠ backtick) (t : Text) : rawSpan? (t ++ [c]) = rawSpan? t := by
  have hnone : [c].findIdx? (· == backtick) = none := by simpa using hc
  rw [rawSpan?, List.findIdx?_append, hnone, rawSpan?]
  simp

theorem withoutRaw_concat (hc : c ≠ backtick) (t : Text) :
    withoutRaw (t ++ [c]) = withoutRaw t ++ [c] := by
  fun_induction withoutRaw t with
  | case1 => simp [withoutRaw_cons hc, withoutRaw]
  | case2 r n hn ih =>
    have hle : n ≤ r.length := by
      obtain ⟨k, hk, rfl⟩ := Option.map_eq_some_iff.mp hn
      exact (List.findIdx?_eq_some_iff_getElem.mp hk).1
    rw [List.cons_append, withoutRaw, if_pos rfl, rawSpan?_concat hc, hn]
    simp only
    rw [List.drop_append_of_le_length hle, ih]
  | case3 r hn =>
    rw [List.cons_append, withoutRaw, if_pos rfl, rawSpan?_concat hc, hn]
  | case4 d r hd ih => rw [List.cons_append, withoutRaw_cons hd, ih, List.cons_append]

theorem delta_of_sameLine (h : SameLine l l') : delta l' = delta l := by
  rcases h with rfl | rfl
  · rfl
  · rw [delta_eq_balance, delta_eq_balance, withoutRaw_concat (by decide)]
    have hcomment : "//".toList ≠ [] := by decide
    have hreturn : '\r' ∉ "//".toList := by decide
    rcases before_concat hcomment hreturn (withoutRaw l) with hcode | hcode
    · rw [hcode]
    · have hzero : balance ['\r'] = 0 := rfl
      rw [hcode, balance_append, hzero, Int.add_zero]

end Brace
end TagLint
