import TagLint.Proofs.Struct.FlatSource
import Mathlib.Data.List.DropRight

/-! Places in a text by line: the number of the line, and what stands before and after the place on
it. -/
namespace TagLint.Text
open Source

/-- The line on which the character with index `i` stands, counted from zero. -/
def lineOf (t : Text) (i : Nat) : Nat := (t.take i).count '\n'

/-- What stands before the character with index `i` on its line. -/
def lineBefore (t : Text) (i : Nat) : Text := (t.take i).rtakeWhile (· != '\n')

/-- What stands behind the character with index `i` on its line. -/
def lineAfter (t : Text) (i : Nat) : Text := (t.drop (i + 1)).takeWhile (· != '\n')

variable {t a p r : Text} {pre : List Text} {x : Char} {i : Nat}

theorem rtakeWhile_unlines_append (hp : '\n' ∉ p) (pre : List Text) :
    (unlines pre ++ p).rtakeWhile (· != '\n') = p := by
  have hline : ∀ c ∈ p.reverse, (c != '\n') = true := by
    intro c hc
    have hmem : c ∈ p := List.mem_reverse.mp hc
    simp only [bne_iff_ne, ne_eq]
    rintro rfl
    exact hp hmem
  have hstop : ∀ c ∈ (unlines pre).reverse.head?, (c != '\n') = false := by
    rcases List.eq_nil_or_concat pre with rfl | ⟨pre, l, rfl⟩
    · simp
    · simp
  rw [List.rtakeWhile, List.reverse_append, takeWhile_append_of_stop hline hstop,
    List.reverse_reverse]

theorem newline_not_mem_takeWhile (r : Text) : '\n' ∉ r.takeWhile (· != '\n') := by
  intro hm
  have h := List.all_eq_true.mp List.all_takeWhile '\n' hm
  simp at h

/-- The first line of a text and the lines behind it. -/
theorem lines_append_eq_cons (ha : '\n' ∉ a) (r : Text) :
    ∃ post, lines (a ++ r) = (a ++ r.takeWhile (· != '\n')) :: post := by
  have hfirst : '\n' ∉ a ++ r.takeWhile (· != '\n') := by
    intro hm
    rcases List.mem_append.mp hm with hm | hm
    · exact ha hm
    · exact newline_not_mem_takeWhile r hm
  have hr : (a ++ r.takeWhile (· != '\n')) ++ r.dropWhile (· != '\n') = a ++ r := by
    rw [List.append_assoc, List.takeWhile_append_dropWhile]
  cases hrest : r.dropWhile (· != '\n') with
  | nil =>
    rw [hrest, List.append_nil] at hr
    exact ⟨[], by rw [← hr, lines, split_of_not_mem hfirst]⟩
  | cons c rest =>
    have hc : c = '\n' := by
      have h := head?_dropWhile_eq_false (· != '\n') r c (by rw [hrest]; rfl)
      simpa using h
    rw [hrest, hc] at hr
    exact ⟨lines rest, by rw [← hr, lines, split_append hfirst]; rfl⟩

/-- A character that ends no line stands between the two parts of its line, behind the lines before
it. -/
theorem exists_lines_of_getElem? (h : t[i]? = some x) (hx : x ≠ '\n') :
    ∃ pre post, lines t = pre ++ (lineBefore t i ++ x :: lineAfter t i) :: post
      ∧ t.take i = unlines pre ++ lineBefore t i ∧ pre.length = lineOf t i := by
  obtain ⟨hi, hget⟩ := List.getElem?_eq_some_iff.mp h
  obtain ⟨pre, p, hpre, hp, htake⟩ := exists_unlines_append (t.take i)
  have hbefore : lineBefore t i = p := by
    rw [lineBefore, htake, rtakeWhile_unlines_append hp]
  have hnumber : lineOf t i = pre.length := by
    rw [lineOf, htake, List.count_append, count_unlines hpre, List.count_eq_zero_of_not_mem hp,
      Nat.add_zero]
  have hsplit : t = unlines pre ++ ((p ++ [x]) ++ t.drop (i + 1)) := by
    have hdrop : t.drop i = x :: t.drop (i + 1) := by rw [List.drop_eq_getElem_cons hi, hget]
    have ht := List.take_append_drop i t
    rw [htake, hdrop] at ht
    rw [← List.append_assoc, ← List.append_assoc, List.append_assoc, List.singleton_append]
    exact ht.symm
  obtain ⟨post, hpost⟩ :=
    lines_append_eq_cons (a := p ++ [x]) (by simp [hp, Ne.symm hx]) (t.drop (i + 1))
  refine ⟨pre, post, ?_, by rw [hbefore, htake], hnumber.symm⟩
  have hlines := lines_unlines hpre ((p ++ [x]) ++ t.drop (i + 1))
  rw [← hsplit, hpost] at hlines
  rw [hlines, hbefore, lineAfter, List.append_assoc, List.singleton_append]

theorem getElem?_lines (h : t[i]? = some x) (hx : x ≠ '\n') :
    (lines t)[lineOf t i]? = some (lineBefore t i ++ x :: lineAfter t i) := by
  obtain ⟨pre, post, hlines, -, hpre⟩ := exists_lines_of_getElem? h hx
  simp [hlines, ← hpre]

theorem lineOf_le {o c : Nat} (h : o ≤ c) (t : Text) : lineOf t o ≤ lineOf t c :=
  (List.take_prefix_take_left h).sublist.count_le '\n'

theorem lineOf_take {stop : Nat} (h : i ≤ stop) (t : Text) :
    lineOf (t.take stop) i = lineOf t i := by
  rw [lineOf, List.take_take, Nat.min_eq_left h, lineOf]

theorem lineBefore_take {stop : Nat} (h : i ≤ stop) (t : Text) :
    lineBefore (t.take stop) i = lineBefore t i := by
  rw [lineBefore, List.take_take, Nat.min_eq_left h, lineBefore]

/-- Between two places on different lines stand the rest of the first line, whole lines, and the
start of the last line. -/
theorem exists_lines_between {o c : Nat} {y : Char} (ho : t[o]? = some x) (hx : x ≠ '\n')
    (hc : t[c]? = some y)
    (hy : y ≠ '\n') (hlt : lineOf t o < lineOf t c) :
    ∃ pre mid post, lines t = pre ++ (lineBefore t o ++ x :: lineAfter t o)
        :: (mid ++ (lineBefore t c ++ y :: lineAfter t c) :: post)
      ∧ pre.length = lineOf t o ∧ lineOf t o + 1 + mid.length = lineOf t c
      ∧ t.take c = t.take (o + 1) ++ (unlines (lineAfter t o :: mid) ++ lineBefore t c) := by
  obtain ⟨pre, post, hlines, htake, hpre⟩ := exists_lines_of_getElem? ho hx
  obtain ⟨pre', post', hlines', htake', hpre'⟩ := exists_lines_of_getElem? hc hy
  have hmid : ∃ mid, pre' = pre ++ (lineBefore t o ++ x :: lineAfter t o) :: mid
      ∧ post = mid ++ (lineBefore t c ++ y :: lineAfter t c) :: post' := by
    rcases List.append_eq_append_iff.mp (hlines.symm.trans hlines') with ⟨ls, hls, hpost⟩ |
      ⟨ls, hls, -⟩
    · cases ls with
      | nil =>
        have := congrArg List.length hls
        simp only [List.append_nil] at this
        omega
      | cons l mid =>
        obtain ⟨rfl, hmid⟩ := List.cons.inj hpost
        exact ⟨mid, hls, hmid⟩
    · have := congrArg List.length hls
      rw [List.length_append] at this
      omega
  obtain ⟨mid, rfl, rfl⟩ := hmid
  refine ⟨pre, mid, post', hlines, hpre, ?_, ?_⟩
  · simp only [List.length_append, List.length_cons] at hpre'
    omega
  · rw [htake', List.take_add_one, htake, ho]
    simp

end TagLint.Text
