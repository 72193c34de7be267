import TagLint.Proofs.Struct.Sites
import TagLint.Validate

/-! Text behind a closed struct does not change what has been found up to its brace. -/
namespace TagLint
open Text

variable {previous : Option Char} {i k n : Nat} {name header rest a b cs t : Text} {s : Site}

/-- A header does not reach past a closing brace. -/
theorem Header.Spelled.eq_append (h : Spelled name header) (heq : header ++ rest = a ++ '}' :: b) :
    ∃ r, a = header ++ r ∧ rest = r ++ '}' :: b := by
  rcases List.append_eq_append_iff.mp heq with ⟨r, rfl, rfl⟩ | ⟨r, rfl, hr⟩
  · exact ⟨r, rfl, rfl⟩
  · cases r with
    | nil => exact ⟨[], by simp, by simpa using hr.symm⟩
    | cons d r =>
      obtain ⟨rfl, -⟩ := List.cons.inj hr
      exact absurd (by simp) h.not_mem_close

/-- Whether a header stands here does not depend on the text behind a closing brace. -/
theorem Header.here?_append_eq_none (h : here? previous (a ++ '}' :: b) = none) (b' : Text) :
    here? previous (a ++ '}' :: b') = none := by
  rcases here?_cases previous (a ++ '}' :: b') with hnone | ⟨name, header, rest, hp, hh, heq, -⟩
  · exact hnone
  · obtain ⟨r, rfl, rfl⟩ := hh.eq_append heq.symm
    rw [List.append_assoc, here?_of_spelled hp hh] at h
    simp at h

theorem Brace.close?_append_of_le (h : close? (a ++ '}' :: b) 0 = some n) (hn : n ≤ a.length)
    (b' : Text) : close? (a ++ '}' :: b') 0 = some n := by
  rw [close?_eq_scan?] at h ⊢
  simp only [List.drop_zero, Nat.add_zero, Option.map_id_fun', id_eq] at h ⊢
  rw [List.append_cons] at h ⊢
  exact scan?_append_of_lt h (by simpa using Nat.lt_succ_of_le hn) b'

/-- A closed struct stays, and with it all that stays behind its brace. -/
theorem sitesFrom_take_of_closed {r : Text} (hp : Header.boundary previous)
    (hh : Header.Spelled name header) (hclose : Brace.close? (r ++ '}' :: b) 0 = some n)
    (hn : n ≤ r.length) (b' : Text)
    (hrest : (sitesFrom (some '}') (i + header.length + n + 1) ((r ++ '}' :: b').drop (n + 1))).take
      k
      = (sitesFrom (some '}') (i + header.length + n + 1) ((r ++ '}' :: b).drop (n + 1))).take k) :
    (sitesFrom previous i (header ++ (r ++ '}' :: b'))).take (k + 1)
      = (sitesFrom previous i (header ++ (r ++ '}' :: b))).take (k + 1) := by
  rw [sitesFrom_of_closed hp hh hclose,
    sitesFrom_of_closed hp hh (Brace.close?_append_of_le hclose hn b'), List.take_succ_cons,
    List.take_succ_cons, hrest, List.take_append_of_le_length hn, List.take_append_of_le_length hn]

/-- The sites up to a closed one stay the same whatever follows its closing brace. -/
theorem sitesFrom_take_append (hk : (sitesFrom previous i (a ++ '}' :: b))[k]? = some s)
    (hs : s.close? = some (i + a.length))
    (hclosed : ∀ s ∈ (sitesFrom previous i (a ++ '}' :: b)).take k, s.close?.isSome) (b' : Text) :
    (sitesFrom previous i (a ++ '}' :: b')).take (k + 1)
      = (sitesFrom previous i (a ++ '}' :: b)).take (k + 1) := by
  induction hm : a.length using Nat.strongRecOn generalizing previous i k a with
  | ind m ih =>
    subst hm
    cases a with
    | nil =>
      -- Every site closes behind its own header.
      have := lt_close_of_mem_sitesFrom (List.mem_of_getElem? hk) hs
      simp at this
    | cons c a =>
      rcases Header.here?_cases previous ((c :: a) ++ '}' :: b) with
        hnone | ⟨name, header, rest, hp, hh, heq, -⟩
      · have hnone' := Header.here?_append_eq_none hnone b'
        simp only [List.cons_append] at hnone hnone' hk hclosed ⊢
        rw [sitesFrom_cons_of_none hnone] at hk hclosed ⊢
        rw [sitesFrom_cons_of_none hnone']
        refine ih a.length (by simp) hk ?_ hclosed rfl
        rw [hs, List.length_cons]
        congr 1
        omega
      · obtain ⟨r, hr, rfl⟩ := hh.eq_append heq.symm
        have hlen := congrArg List.length hr
        have hpos := List.length_pos_iff.mpr hh.ne_nil
        rw [List.length_append] at hlen
        rw [hr, List.append_assoc] at hk hclosed ⊢
        rw [List.append_assoc]
        cases hclose : Brace.close? (r ++ '}' :: b) 0 with
        | none =>
          rw [sitesFrom_of_open hp hh hclose] at hk hclosed
          cases k with
          | zero =>
            obtain rfl : _ = s := by simpa using hk
            simp at hs
          | succ k => simp at hclosed
        | some n =>
          rw [sitesFrom_of_closed hp hh hclose] at hk hclosed
          cases k with
          | zero =>
            obtain rfl : _ = s := by simpa using hk
            simp only [Option.some.injEq] at hs
            exact sitesFrom_take_of_closed hp hh hclose (by omega) b' rfl
          | succ k =>
            have hlt := lt_close_of_mem_sitesFrom (List.mem_of_getElem? hk) hs
            have hn : n + 1 ≤ r.length := by omega
            have hdrop : ∀ b, (r ++ '}' :: b).drop (n + 1) = r.drop (n + 1) ++ '}' :: b :=
              fun b => List.drop_append_of_le_length hn
            rw [List.getElem?_cons_succ, hdrop] at hk
            rw [List.take_succ_cons, List.forall_mem_cons, hdrop] at hclosed
            apply sitesFrom_take_of_closed hp hh hclose (by omega) b'
            rw [hdrop, hdrop]
            refine ih (r.drop (n + 1)).length ?_ hk ?_ hclosed.2 rfl
            · rw [List.length_drop]
              omega
            · rw [hs, List.length_drop]
              congr 1
              omega

/-- The site of a closing brace cuts the text at that brace. -/
theorem exists_eq_append_close (hk : (sites t)[k]? = some s) (hs : s.close? = some i) :
    i = (t.take i).length ∧ ∃ b, t = t.take i ++ '}' :: b ∧ t.take (i + 1) = t.take i ++ ['}'] := by
  have hclose := close?_of_mem_sites (List.mem_of_getElem? hk)
  rw [hs, Brace.close?_eq_scan?] at hclose
  obtain ⟨n, hn, rfl⟩ := Option.map_eq_some_iff.mp hclose.symm
  have hbrace := Brace.getElem?_of_scan? hn
  rw [List.getElem?_drop, Nat.add_comm] at hbrace
  obtain ⟨hlt, hget⟩ := List.getElem?_eq_some_iff.mp hbrace
  refine ⟨by simp; omega, t.drop (n + s.body + 1), ?_, ?_⟩
  · rw [← hget, List.getElem_cons_drop, List.take_append_drop]
  · rw [List.take_succ_eq_append_getElem hlt, hget]

theorem sites_take_append (hk : (sites t)[k]? = some s) (hs : s.close? = some i)
    (hclosed : ∀ s ∈ (sites t).take k, s.close?.isSome) (t' : Text) :
    (sites (t.take (i + 1) ++ t')).take (k + 1) = (sites t).take (k + 1) := by
  obtain ⟨hi, b, ht, htake⟩ := exists_eq_append_close hk hs
  rw [ht] at hk hclosed
  have hlocal := sitesFrom_take_append hk (by rw [hs, Nat.zero_add, ← hi]) hclosed t'
  rw [← ht] at hlocal
  rw [htake, List.append_assoc]
  exact hlocal

/-- Once the first structs are closed, whatever follows the last closing brace leaves them as they
are, and their diagnostics come first in both texts. -/
theorem structs_take_append (r : Registry) (t : Text) (k i : Nat) (s : Site)
    (hk : (sites t)[k]? = some s) (hs : s.close? = some i)
    (hclosed : ∀ s ∈ (sites t).take k, s.close?.isSome) (t' : Text) :
    (structs (t.take (i + 1) ++ t')).take (k + 1) = (structs t).take (k + 1)
      ∧ validateStructs r ((structs t).take (k + 1)) <+: validateText r t
      ∧ validateStructs r ((structs t).take (k + 1)) <+: validateText r (t.take (i + 1) ++ t') := by
  have htake : (structs (t.take (i + 1) ++ t')).take (k + 1) = (structs t).take (k + 1) := by
    rw [← map_decl_sites, ← map_decl_sites, ← List.map_take, ← List.map_take,
      sites_take_append hk hs hclosed t']
  have hstart : ∀ u : Text, validateStructs r ((structs u).take (k + 1)) <+: validateText r u := by
    intro u
    refine ⟨validateStructs r ((structs u).drop (k + 1)), ?_⟩
    rw [validateText, validateStructs, validateStructs, ← List.flatMap_append,
      List.take_append_drop]
    rfl
  exact ⟨htake, hstart t, htake ▸ hstart (t.take (i + 1) ++ t')⟩

/-- Two closed structs, and one that is still open. -/
def twoClosed : Text :=
  "type A struct \x7b\x7d\ntype B struct \x7b\n N int // \x7d\n\x7d\ntype C struct \x7b".toList

/-- The closed structs stay, though the text behind them turns into an open raw string. -/
theorem structs_take_append_raw :
    let s : Site := ⟨17, 32, some 45, ⟨['B'], [⟨['N'], "int".toList, []⟩]⟩⟩
    (sites twoClosed)[1]? = some s ∧ (∀ s ∈ (sites twoClosed).take 1, s.close?.isSome)
      ∧ (structs (twoClosed.take 46 ++ "\x60type D struct \x7b".toList)).take 2
        = (structs twoClosed).take 2 := by
  have hk :
      (sites twoClosed)[1]? = some ⟨17, 32, some 45, ⟨['B'], [⟨['N'], "int".toList, []⟩]⟩⟩ := by
    decide +kernel
  have hclosed : ∀ s ∈ (sites twoClosed).take 1, s.close?.isSome := by decide +kernel
  exact ⟨hk, hclosed, (structs_take_append {} _ 1 45 _ hk rfl hclosed _).1⟩

end TagLint
