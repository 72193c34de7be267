import TagLint.Proofs.Struct.BraceScan
import TagLint.Proofs.Struct.Headers

/-! Where the structs of a text stand, one position at a time. -/
namespace TagLint
open Text

/-- A struct with the positions of its header, of its body and of its closing brace. -/
structure Site where
  start : Nat
  body : Nat
  close? : Option Nat
  decl : StructDecl
deriving DecidableEq, Repr

namespace Header

/-- The header that stands right here, after `previous`. -/
def here? (previous : Option Char) (cs : Text) : Option (Text × Text) :=
  if boundary previous then match? cs else none

end Header

/-- The structs of a text that starts at `i` and stands after `previous`. -/
def sitesFrom (previous : Option Char) (i : Nat) (cs : Text) : List Site :=
  match cs with
  | [] => []
  | c :: cs =>
    match _h : Header.here? previous (c :: cs) with
    | none => sitesFrom (some c) (i + 1) cs
    | some (name, rest) =>
      let body := i + ((c :: cs).length - rest.length)
      match Brace.close? rest 0 with
      | none => ⟨i, body, none, ⟨name, []⟩⟩ :: sitesFrom (some '{') body rest
      | some n =>
        ⟨i, body, some (body + n), ⟨name, Body.fields (rest.take n)⟩⟩
          :: sitesFrom (some '}') (body + n + 1) (rest.drop (n + 1))
termination_by cs.length
decreasing_by
  all_goals simp only [Header.here?, Option.ite_none_right_eq_some] at _h
  · simp
  · exact Header.match?_length _h.2
  · have := Header.match?_length _h.2
    simp only [List.length_drop]
    omega

def sites (t : Text) : List Site := sitesFrom none 0 t

variable {previous : Option Char} {i k n : Nat} {name header rest a b cs t : Text} {c : Char}
  {s : Site}

/-! ## One step of the extraction -/

theorem Header.search?_cons (previous : Option Char) (c : Char) (cs : Text) :
    search? previous (c :: cs)
      = match here? previous (c :: cs) with
        | some found => some found
        | none => search? (some c) cs := rfl

/-- What a header and the search for its brace give, with `next` for the text that remains. -/
def structHere (name rest : Text) (next : Option Char → Text → List StructDecl) : List StructDecl :=
  match Brace.close? rest 0 with
  | none => ⟨name, []⟩ :: next (some '{') rest
  | some n => ⟨name, Body.fields (rest.take n)⟩ :: next (some '}') (rest.drop (n + 1))

theorem structsAfter_eq (previous : Option Char) (cs : Text) :
    structsAfter previous cs
      = match Header.search? previous cs with
        | none => []
        | some (name, rest) => structHere name rest structsAfter := by
  rw [structsAfter]
  split
  · rename_i h
    rw [h]
  · rename_i h
    rw [h]
    rfl

@[simp] theorem structsAfter_nil (previous : Option Char) : structsAfter previous [] = [] := by
  rw [structsAfter_eq]
  rfl

theorem structsAfter_cons_of_none (h : Header.here? previous (c :: cs) = none) :
    structsAfter previous (c :: cs) = structsAfter (some c) cs := by
  rw [structsAfter_eq, structsAfter_eq, Header.search?_cons, h]

theorem structsAfter_of_some (h : Header.here? previous cs = some (name, rest)) :
    structsAfter previous cs = structHere name rest structsAfter := by
  cases cs with
  | nil =>
    simp only [Header.here?, Option.ite_none_right_eq_some] at h
    have := Header.match?_length h.2
    simp at this
  | cons c cs => rw [structsAfter_eq, Header.search?_cons, h]

/-- The positions belong to the structs of the text, in order. -/
theorem map_decl_sitesFrom (previous : Option Char) (i : Nat) (cs : Text) :
    (sitesFrom previous i cs).map Site.decl = structsAfter previous cs := by
  fun_induction sitesFrom previous i cs with
  | case1 => simp
  | case2 previous i c cs h ih => rw [structsAfter_cons_of_none h, ih]
  | case3 previous i c cs name rest h body hclose ih =>
    rw [structsAfter_of_some h, structHere, hclose, List.map_cons, ih]
  | case4 previous i c cs name rest h body n hclose ih =>
    rw [structsAfter_of_some h, structHere, hclose, List.map_cons, ih]

theorem map_decl_sites (t : Text) : (sites t).map Site.decl = structs t :=
  map_decl_sitesFrom none 0 t

theorem sitesFrom_cons_of_none (h : Header.here? previous (c :: cs) = none) :
    sitesFrom previous i (c :: cs) = sitesFrom (some c) (i + 1) cs := by
  rw [sitesFrom]
  split <;> simp_all

theorem Header.here?_eq_some_iff :
    here? previous cs = some (name, rest) ↔
      boundary previous ∧ ∃ header, Spelled name header ∧ cs = header ++ rest := by
  simp only [here?, Option.ite_none_right_eq_some, match?_eq_some_iff]

theorem Header.here?_of_spelled (hp : boundary previous) (h : Spelled name header) (rest : Text) :
    here? previous (header ++ rest) = some (name, rest) :=
  here?_eq_some_iff.mpr ⟨hp, header, h, rfl⟩

theorem sitesFrom_of_open (hp : Header.boundary previous) (h : Header.Spelled name header)
    (hclose : Brace.close? rest 0 = none) :
    sitesFrom previous i (header ++ rest)
      = ⟨i, i + header.length, none, ⟨name, []⟩⟩ :: sitesFrom (some '{')
        (i + header.length) rest := by
  have hhere := Header.here?_of_spelled hp h rest
  obtain ⟨c, cs, hcs⟩ :=
    List.exists_cons_of_ne_nil (List.append_ne_nil_of_left_ne_nil h.ne_nil rest)
  have hlen : (c :: cs).length - rest.length = header.length := by simp [← hcs]
  rw [hcs] at hhere ⊢
  rw [sitesFrom]
  split <;> simp_all

theorem sitesFrom_of_closed (hp : Header.boundary previous) (h : Header.Spelled name header)
    (hclose : Brace.close? rest 0 = some n) :
    sitesFrom previous i (header ++ rest)
      = ⟨i, i + header.length, some (i + header.length + n), ⟨name, Body.fields (rest.take n)⟩⟩
        :: sitesFrom (some '}') (i + header.length + n + 1) (rest.drop (n + 1)) := by
  have hhere := Header.here?_of_spelled hp h rest
  obtain ⟨c, cs, hcs⟩ :=
    List.exists_cons_of_ne_nil (List.append_ne_nil_of_left_ne_nil h.ne_nil rest)
  have hlen : (c :: cs).length - rest.length = header.length := by simp [← hcs]
  rw [hcs] at hhere ⊢
  rw [sitesFrom]
  split <;> simp_all

/-- A position holds no header, or one that is spelled out there. -/
theorem Header.here?_cases (previous : Option Char) (cs : Text) :
    here? previous cs = none ∨ ∃ name header rest, boundary previous ∧ Spelled name header ∧
      cs = header ++ rest ∧ here? previous cs = some (name, rest) := by
  cases h : here? previous cs with
  | none => exact .inl rfl
  | some found =>
    obtain ⟨name, rest⟩ := found
    obtain ⟨hp, header, hh, hcs⟩ := here?_eq_some_iff.mp h
    exact .inr ⟨name, header, rest, hp, hh, hcs, rfl⟩

/-! ## Positions -/

theorem lt_close_of_mem_sitesFrom (hs : s ∈ sitesFrom previous i cs) (hn : s.close? = some n) :
    i < n := by
  fun_induction sitesFrom previous i cs with
  | case1 => simp at hs
  | case2 previous i c cs h ih => exact Nat.lt_of_succ_lt (ih hs)
  | case3 previous i c cs name rest h body hclose ih =>
    have hlen := Header.match?_length (Option.ite_none_right_eq_some.mp h).2
    rcases List.mem_cons.mp hs with rfl | hs
    · simp at hn
    · have := ih hs
      omega
  | case4 previous i c cs name rest h body k hclose ih =>
    have hlen := Header.match?_length (Option.ite_none_right_eq_some.mp h).2
    rcases List.mem_cons.mp hs with rfl | hs
    · simp only [Option.some.injEq] at hn
      omega
    · have := ih hs
      omega

theorem Brace.close?_drop (t : Text) (body : Nat) :
    close? t body = (close? (t.drop body) 0).map (· + body) := by
  simp [close?_eq_scan?]

theorem Header.drop_body (h : match? cs = some (name, rest)) (hcs : cs = t.drop i) :
    t.drop (i + (cs.length - rest.length)) = rest := by
  obtain ⟨header, -, hsplit⟩ := spelled_of_match? h
  rw [← List.drop_drop, ← hcs, hsplit]
  simp

/-- A site lies where it says: its header at the start, its brace where the search from the body
ends. -/
theorem Site.match?_of_mem (hcs : cs = t.drop i) (hs : s ∈ sitesFrom previous i cs) :
    Header.match? (t.drop s.start) = some (s.decl.name, t.drop s.body)
      ∧ s.close? = Brace.close? t s.body := by
  fun_induction sitesFrom previous i cs with
  | case1 => simp at hs
  | case2 previous i c cs h ih =>
    apply ih _ hs
    rw [← List.drop_drop, ← hcs]
    rfl
  | case3 previous i c cs name rest h body hclose ih =>
    have hmatch := (Option.ite_none_right_eq_some.mp h).2
    have hbody := Header.drop_body hmatch hcs
    rcases List.mem_cons.mp hs with rfl | hs
    · simp only [← hcs, body, hbody, hmatch, true_and]
      rw [Brace.close?_drop, hbody, hclose]
      rfl
    · exact ih hbody.symm hs
  | case4 previous i c cs name rest h body n hclose ih =>
    have hmatch := (Option.ite_none_right_eq_some.mp h).2
    have hbody := Header.drop_body hmatch hcs
    rcases List.mem_cons.mp hs with rfl | hs
    · simp only [← hcs, body, hbody, hmatch, true_and]
      rw [Brace.close?_drop, hbody, hclose, Option.map_some, Nat.add_comm]
    · exact ih ((congrArg (List.drop (n + 1)) hbody.symm).trans List.drop_drop) hs

theorem close?_of_mem_sites (hs : s ∈ sites t) : s.close? = Brace.close? t s.body :=
  (Site.match?_of_mem rfl hs).2

end TagLint
