import TagLint.Proofs.Struct.RoundTrip
import TagLint.Proofs.Text.LineEnds

/-! Line ends of two characters: the same structs are found. -/
namespace TagLint
open Text

variable {cs t name rest : Text} {c : Char} {previous : Option Char} {n d : Nat}

/-- No backslash takes the newline that ends its line. -/
def NoContinuation (t : Text) : Prop := ¬ ['\\', '\n'] <:+: t

instance (t : Text) : Decidable (NoContinuation t) := inferInstanceAs (Decidable (¬ _ <:+: _))

theorem NoContinuation.tail (h : NoContinuation (c :: t)) : NoContinuation t :=
  fun hin => h (hin.trans (List.suffix_cons c t).isInfix)

theorem NoContinuation.of_suffix (h : NoContinuation t) (hs : cs <:+ t) : NoContinuation cs :=
  fun hin => h (hin.trans hs.isInfix)

namespace Brace

variable {m : Mode} {q : Char}

namespace Mode

/-- The quote that ends the literal the scan stands in. -/
def quote? : Mode → Option Char
  | quoted q => some q
  | escaped q => some q
  | _ => none

theorem afterCode_cases (c : Char) :
    (afterCode c).quote? = none ∨ (c = '"' ∨ c = '\'') ∧ afterCode c = quoted c := by
  rw [afterCode]
  split
  · exact .inl rfl
  · split
    · exact .inr ⟨‹_›, rfl⟩
    · left
      split <;> rfl

/-- After a step the scan stands outside of literals, in a new one, or in the one that it was in. -/
theorem next_cases (m : Mode) (c : Char) :
    (m.next c).quote? = none ∨ (c = '"' ∨ c = '\'') ∧ m.next c = quoted c
      ∨ ∃ q, m.quote? = some q ∧ (m.next c = quoted q ∨ c = '\\' ∧ m.next c = escaped q) := by
  cases m with
  | code => exact (afterCode_cases c).imp_right .inl
  | slash =>
    rw [next]
    split
    · exact .inl rfl
    · split
      · exact .inl rfl
      · exact (afterCode_cases c).imp_right .inl
  | quoted q =>
    rw [next]
    split
    · exact .inr (.inr ⟨q, rfl, .inr ⟨‹_›, rfl⟩⟩)
    · split
      · exact .inl rfl
      · exact .inr (.inr ⟨q, rfl, .inl rfl⟩)
  | escaped q => exact .inr (.inr ⟨q, rfl, .inl rfl⟩)
  | raw | line | block =>
    rw [next]
    left
    split <;> rfl
  | star =>
    rw [next]
    left
    split
    · rfl
    · split <;> rfl

/-- No carriage return opens a literal. -/
theorem quote?_next (h : m.quote? ≠ some '\r') (c : Char) : (m.next c).quote? ≠ some '\r' := by
  rcases next_cases m c with hnone | ⟨hc, hnext⟩ | ⟨q, hq, hnext | ⟨-, hnext⟩⟩
  · simp [hnone]
  · rw [hnext]
    intro heq
    obtain rfl : c = '\r' := Option.some.inj heq
    exact absurd hc (by decide)
  · rw [hnext]
    rwa [hq] at h
  · rw [hnext]
    rwa [hq] at h

/-- Only a backslash escapes. -/
theorem eq_backslash_of_next (h : m.next c = escaped q) : c = '\\' := by
  rcases next_cases m c with hnone | ⟨-, hnext⟩ | ⟨q', -, hnext | ⟨hc, -⟩⟩
  · simp [h, quote?] at hnone
  · simp [h] at hnext
  · simp [h] at hnext
  · exact hc

/-- A carriage return before a newline changes nothing, unless a backslash takes it. -/
theorem next_return_newline (h : m.quote? ≠ some '\r') (he : ∀ q, m ≠ escaped q) :
    (m.next '\r').next '\n' = m.next '\n' := by
  cases m with
  | quoted q =>
    have hq : '\r' ≠ q := fun hq => h (congrArg some hq.symm)
    simp [next, hq]
  | escaped q => exact absurd rfl (he q)
  | code => rfl
  | slash => rfl
  | raw => rfl
  | line => rfl
  | block => rfl
  | star => rfl

theorem closes_of_ne (hc : c ≠ '}') (m : Mode) (d : Nat) : m.closes c d = false := by
  simp [closes, hc]

theorem depth_of_ne (hopen : c ≠ '{') (hclose : c ≠ '}') (m : Mode) (d : Nat) :
    m.depth c d = d := by
  simp [depth, hopen, hclose]

end Mode

/-- The scan finds the same brace, behind the same characters. -/
theorem scan?_crlf (hm : m.quote? ≠ some '\r') (he : ∀ q, m = .escaped q → cs.head? ≠ some '\n')
    (hcs : NoContinuation cs) :
    scan? m d (crlf cs) = (scan? m d cs).map fun n => (crlf (cs.take n)).length := by
  induction cs generalizing m d with
  | nil => rfl
  | cons c cs ih =>
    have hrest := ih (m := m.next c) (d := m.depth c d) (Mode.quote?_next hm c) (by
      rintro q hq hhead
      obtain ⟨t, rfl⟩ := List.head?_eq_some_iff.mp hhead
      rw [Mode.eq_backslash_of_next hq] at hcs
      exact hcs (List.prefix_append ['\\', '\n'] t).isInfix) hcs.tail
    by_cases hc : c = '\n'
    · subst hc
      have hstep : (m.next '\r').next '\n' = m.next '\n' :=
        Mode.next_return_newline hm fun q hq => he q hq rfl
      rw [Mode.depth_of_ne (by decide) (by decide)] at hrest
      rw [crlf_newline, scan?, Mode.closes_of_ne (by decide), scan?, Mode.closes_of_ne (by decide),
        scan?, Mode.closes_of_ne (by decide), Mode.depth_of_ne (by decide) (by decide),
        Mode.depth_of_ne (by decide) (by decide), Mode.depth_of_ne (by decide) (by decide), hstep,
        hrest]
      simp [Function.comp_def]
    · rw [crlf_cons hc, scan?, scan?]
      split
      · rfl
      · rw [hrest]
        simp [Function.comp_def, crlf_cons hc]

theorem close?_crlf (ht : NoContinuation t) :
    close? (crlf t) 0 = (close? t 0).map fun n => (crlf (t.take n)).length := by
  rw [close?_eq_scan?, close?_eq_scan?, List.drop_zero, List.drop_zero,
    scan?_crlf (by simp [Mode.quote?]) (by simp) ht]
  simp only [Nat.add_zero, Option.map_id_fun', id_eq]

end Brace

theorem Body.fields_crlf (body : Text) : fields (crlf body) = fields body := by
  rw [fields, map_trim_lines_crlf, fields]

namespace Header

/-- Two readings in a row, each of which reads both texts alike. -/
theorem bind_map_crlf {α β : Type} {f : Text → Option α} {g : Text → Option β} {h : β → α}
    (hfg : ∀ t, f (crlf t) = (g t).map h) (o : Option Text) :
    (o.map crlf).bind f = (o.bind g).map h := by
  cases o with
  | none => rfl
  | some t => exact hfg t

theorem match?_crlf (cs : Text) :
    match? (crlf cs) = (match? cs).map fun (name, rest) => (name, crlf rest) := by
  have hname : ∀ t : Text, '\n' ∉ t.takeWhile isWord := by
    intro t hm
    have := List.all_eq_true.mp List.all_takeWhile _ hm
    exact absurd this (by decide)
  rw [match?, match?, after?_crlf (by decide) (by decide)]
  refine bind_map_crlf (fun t₁ => ?_) _
  rw [afterBlanks?_crlf]
  refine bind_map_crlf (fun t₂ => ?_) _
  rw [takeWhile_crlf (p := isWord) (by decide), crlf_of_not_mem (hname t₂),
    dropWhile_crlf (p := isWord) (by decide), afterBlanks?_crlf]
  refine bind_map_crlf (fun t₃ => ?_) _
  rw [after?_crlf (by decide) (by decide)]
  refine bind_map_crlf (fun t₄ => ?_) _
  rw [trimLeft_crlf]
  cases trimLeft t₄ with
  | nil => rfl
  | cons c r =>
    by_cases hbrace : c = '{'
    · subst hbrace
      rw [crlf_cons (by decide)]
      simp only
      split <;> rfl
    · by_cases hc : c = '\n'
      · subst hc
        rfl
      · rw [crlf_cons hc]
        split <;> simp_all

theorem here?_crlf (previous : Option Char) (cs : Text) :
    here? previous (crlf cs) = (here? previous cs).map fun (name, rest) => (name, crlf rest) := by
  rw [here?, here?, match?_crlf]
  split <;> rfl

theorem here?_eq_none_of_head (hc : c ≠ 't') : here? previous (c :: cs) = none := by
  apply here?_of_not_start
  rintro ⟨r, hr⟩
  exact hc (List.cons.inj hr).1.symm

end Header

theorem structsAfter_newline (previous : Option Char) (cs : Text) :
    structsAfter previous (crlf ('\n' :: cs)) = structsAfter (some '\n') (crlf cs) := by
  rw [crlf_newline, structsAfter_cons_of_none (Header.here?_eq_none_of_head (by decide)),
    structsAfter_cons_of_none (Header.here?_eq_none_of_head (by decide))]

theorem structHere_crlf (name : Text) (h : NoContinuation rest)
    (hnext : ∀ previous cs, cs <:+ rest →
      structsAfter previous (crlf cs) = structsAfter previous cs) :
    structHere name (crlf rest) structsAfter = structHere name rest structsAfter := by
  rw [structHere, structHere, Brace.close?_crlf h]
  cases hclose : Brace.close? rest 0 with
  | none => simp only [Option.map_none, hnext _ rest List.suffix_rfl]
  | some n =>
    obtain ⟨hlt, hget⟩ := List.getElem?_eq_some_iff.mp (Brace.getElem?_of_close? hclose)
    have hsplit : crlf rest = crlf (rest.take n) ++ '}' :: crlf (rest.drop (n + 1)) := by
      rw [← crlf_cons (by decide), ← crlf_append, ← hget, List.getElem_cons_drop,
        List.take_append_drop]
    have hdrop : (crlf rest).drop ((crlf (rest.take n)).length + 1) = crlf (rest.drop (n + 1)) := by
      rw [hsplit, List.append_cons]
      exact List.drop_left' (by simp)
    have htake : (crlf rest).take (crlf (rest.take n)).length = crlf (rest.take n) := by
      rw [hsplit, List.take_left]
    simp only [Option.map_some, htake, hdrop, Body.fields_crlf,
      hnext _ _ (List.drop_suffix (n + 1) rest)]

theorem structsAfter_crlf (previous : Option Char) (h : NoContinuation cs) :
    structsAfter previous (crlf cs) = structsAfter previous cs := by
  induction hm : cs.length using Nat.strongRecOn generalizing previous cs with
  | ind m ih =>
    subst hm
    cases cs with
    | nil => rfl
    | cons c cs =>
      have hhere := Header.here?_crlf previous (c :: cs)
      rcases Header.here?_cases previous (c :: cs) with hnone |
        ⟨name, header, rest, -, hh, heq, hsome⟩
      · have hrest := ih cs.length (by simp) (some c) h.tail rfl
        rw [hnone, Option.map_none] at hhere
        rw [structsAfter_cons_of_none hnone]
        by_cases hc : c = '\n'
        · subst hc
          rw [structsAfter_newline, hrest]
        · rw [crlf_cons hc] at hhere ⊢
          rw [structsAfter_cons_of_none hhere, hrest]
      · rw [hsome, Option.map_some] at hhere
        rw [structsAfter_of_some hhere, structsAfter_of_some hsome]
        have hsuffix : rest <:+ c :: cs := ⟨header, heq.symm⟩
        refine structHere_crlf name (h.of_suffix hsuffix) fun previous' cs' hcs' => ?_
        refine ih cs'.length ?_ previous' (h.of_suffix (hcs'.trans hsuffix)) rfl
        have hpos := List.length_pos_iff.mpr hh.ne_nil
        have hle := hcs'.length_le
        rw [heq, List.length_append]
        omega

theorem structs_crlf (h : NoContinuation t) : structs (crlf t) = structs t :=
  structsAfter_crlf none h

end TagLint
