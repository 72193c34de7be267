import Mathlib.Data.List.Forall2
import TagLint.Proofs.Struct.Readings
import TagLint.Proofs.Text.Pieces

/-! What a body sees of one of its lines. -/
namespace TagLint.Body
open Text

variable {l l' name s s' x : Text} {ls ls' xs ys : List Text} {d : Int} {n k : Nat}

/-- Lines that a body cannot tell apart: they open the same group or none, declare the same fields
and count the same braces, and one that may close a group gives it the same tag. -/
structure Alike (s s' : Text) : Prop where
  opener : opener? s = opener? s'
  fields : opener? s = none → FieldLine.fields s = FieldLine.fields s'
  delta : Brace.delta s = Brace.delta s'
  closer : Brace.delta s < 0 → closer? s = closer? s'

theorem Alike.refl (s : Text) : Alike s s := ⟨rfl, fun _ => rfl, rfl, fun _ => rfl⟩

/-- The one line may stand for the other in every body. -/
def Interchangeable (l l' : Text) : Prop :=
  ∀ xs ys : List Text, (∀ x ∈ xs ++ ys, '\n' ∉ x) →
    fields (join "\n".toList (xs ++ l :: ys)) = fields (join "\n".toList (xs ++ l' :: ys))

/-! ## Bodies of lines that are alike -/

/-- The groups end at lines that are alike, and close alike. -/
theorem group_alike (h : List.Forall₂ Alike ls ls') (hd : 0 < d) :
    List.Forall₂ Alike (group d ls).1 (group d ls').1
      ∧ Option.Rel (fun p p' => closer? p.1 = closer? p'.1 ∧ List.Forall₂ Alike p.2 p'.2)
        (group d ls).2
        (group d ls').2 := by
  induction h generalizing d with
  | nil => exact ⟨.nil, .none⟩
  | @cons s s' ls ls' hs hls ih =>
    rw [group, group, ← hs.delta]
    by_cases hopen : 0 < d + Brace.delta s
    · obtain ⟨hinner, hend⟩ := ih hopen
      rw [if_pos hopen, if_pos hopen]
      exact ⟨.cons hs hinner, hend⟩
    · rw [if_neg hopen, if_neg hopen]
      exact ⟨.nil, .some ⟨hs.closer (by omega), hls⟩⟩

theorem fieldsOfLines_congr (h : List.Forall₂ Alike ls ls') :
    fieldsOfLines ls = fieldsOfLines ls' := by
  induction hn : ls.length using Nat.strongRecOn generalizing ls ls' with
  | ind n ih =>
    subst hn
    cases h with
    | nil => rfl
    | @cons s s' ls ls' hs hls =>
      cases hname : opener? s with
      | none =>
        have hrest := ih ls.length (by simp) hls rfl
        rw [fieldsOfLines_of_none hname, fieldsOfLines_of_none (hs.opener ▸ hname), hs.fields hname,
          hrest]
      | some name =>
        obtain ⟨hinner, hend⟩ := group_alike hls Int.one_pos
        have hlength := group_fst_length 1 ls
        have hlines := ih (group 1 ls).1.length (by simp; omega) hinner rfl
        cases hgroup : group 1 ls with
        | mk inner closing =>
          cases hgroup' : group 1 ls' with
          | mk inner' closing' =>
            simp only [hgroup, hgroup'] at hend hlines
            cases hend with
            | none =>
              rw [fieldsOfLines_of_unclosed hname hgroup,
                fieldsOfLines_of_unclosed (hs.opener ▸ hname) hgroup', hlines]
            | @some p p' hp =>
              have hafter : p.2.length < ls.length := group_snd_length (congrArg Prod.snd hgroup)
              have hrest := ih p.2.length (by simp; omega) hp.2 rfl
              rw [fieldsOfLines_of_group hname hgroup,
                fieldsOfLines_of_group (hs.opener ▸ hname) hgroup', hlines, hp.1, hrest]

/-! ## Bodies by their lines -/

/-- The lines that say something, trimmed. -/
def contents (ls : List Text) : List Text := (ls.map trim).filter isContent

theorem lines_join (hls : ∀ x ∈ l :: ls, '\n' ∉ x) : lines (join "\n".toList (l :: ls)) = l :: ls :=
  split_join (by simp) hls

theorem contents_append (xs ys : List Text) : contents (xs ++ ys) = contents xs ++ contents ys := by
  rw [contents, List.map_append, List.filter_append]
  rfl

theorem contents_singleton (hs : isContent (trim l)) : contents [l] = [trim l] :=
  List.filter_cons_of_pos hs

theorem contents_singleton_of_not (hs : isContent (trim l) = false) : contents [l] = [] :=
  List.filter_cons_of_neg (by simp [hs])

theorem fields_join (hl : '\n' ∉ l) (hxs : ∀ x ∈ xs ++ ys, '\n' ∉ x) :
    fields (join "\n".toList (xs ++ l :: ys))
      = fieldsOfLines (contents xs ++ (contents [l] ++ contents ys)) := by
  have hall : ∀ x ∈ xs ++ l :: ys, '\n' ∉ x := by
    simp only [List.mem_append, List.mem_cons] at hxs ⊢
    rintro x (hx | rfl | hx)
    · exact hxs x (.inl hx)
    · exact hl
    · exact hxs x (.inr hx)
  obtain ⟨y, zs, hcons⟩ : ∃ y zs, xs ++ l :: ys = y :: zs := List.exists_cons_of_ne_nil (by simp)
  rw [← contents_append, ← contents_append, List.singleton_append, hcons, contents]
  rw [hcons] at hall
  rw [fields, lines_join hall]

/-- A line that a body reads as it is. -/
structure Settled (x : Text) : Prop where
  trimmed : trim x = x
  content : isContent x
  newline : '\n' ∉ x

theorem contents_of_settled (hls : ∀ x ∈ ls, Settled x) : contents ls = ls := by
  have hmap : ls.map trim = ls.map id := List.map_congr_left fun x hx => (hls x hx).trimmed
  rw [contents, hmap, List.map_id]
  exact List.filter_eq_self.mpr fun x hx => (hls x hx).content

theorem Interchangeable.fieldsOfLines_eq (h : Interchangeable l l') (hl : '\n' ∉ l)
    (hl' : '\n' ∉ l')
    (hs : isContent (trim l)) (hs' : isContent (trim l')) (hxs : ∀ x ∈ xs, Settled x)
    (hys : ∀ x ∈ ys, Settled x) :
    fieldsOfLines (xs ++ trim l :: ys) = fieldsOfLines (xs ++ trim l' :: ys) := by
  have hall : ∀ x ∈ xs ++ ys, '\n' ∉ x := by
    intro x hx
    rcases List.mem_append.mp hx with hx | hx
    · exact (hxs x hx).newline
    · exact (hys x hx).newline
  have heq := h xs ys hall
  rwa [fields_join hl hall, fields_join hl' hall, contents_singleton hs, contents_singleton hs',
    contents_of_settled hxs, contents_of_settled hys] at heq

/-! ## Bodies that tell lines apart -/

def openingLine : Text := "A struct \x7b".toList

def fieldLine : Text := "B int".toList

theorem settled_openingLine : Settled openingLine := ⟨by decide, by decide, by decide⟩

theorem settled_fieldLine : Settled fieldLine := ⟨by decide, by decide, by decide⟩

theorem opener?_openingLine : opener? openingLine = some ['A'] := by decide

theorem fields_fieldLine :
    FieldLine.fields fieldLine = [⟨['B'], "int".toList, []⟩] := by decide +kernel

/-- A brace on a line of its own. -/
inductive Lone : Text → Prop
  | opening : Lone ['{']
  | closing : Lone ['}']

theorem Lone.settled (h : Lone x) : Settled x := by
  cases h with
  | opening => exact ⟨by decide, by decide, by decide⟩
  | closing => exact ⟨by decide, by decide, by decide⟩

theorem Lone.opener? (h : Lone x) : opener? x = none := by
  cases h <;> rfl

theorem Lone.fields (h : Lone x) : FieldLine.fields x = [] := by
  cases h <;> decide +kernel

theorem fieldsOfLines_lone (h : Lone x) (n : Nat) (ls : List Text) :
    fieldsOfLines (List.replicate n x ++ ls) = fieldsOfLines ls := by
  induction n with
  | zero => rfl
  | succ n ih =>
    rw [List.replicate_succ, List.cons_append, fieldsOfLines_of_none h.opener?, h.fields,
      List.nil_append, ih]

theorem group_opening (hd : 0 < d) (n : Nat) (ls : List Text) :
    group d (List.replicate n ['{'] ++ ls)
      = (List.replicate n ['{'] ++ (group (d + n) ls).1, (group (d + n) ls).2) := by
  have hdelta : Brace.delta ['{'] = 1 := by decide +kernel
  induction n generalizing d with
  | zero => simp
  | succ n ih =>
    have hdepth : d + 1 + n = d + (n + 1 : Nat) := by omega
    rw [List.replicate_succ, List.cons_append, group, hdelta, if_pos (by omega), ih (by omega),
      hdepth]
    rfl

theorem group_closing (hd : 0 < d) (n : Nat) (ls : List Text) :
    group (d + n) (List.replicate n ['}'] ++ ls)
      = (List.replicate n ['}'] ++ (group d ls).1, (group d ls).2) := by
  have hdelta : Brace.delta ['}'] = -1 := by decide +kernel
  induction n with
  | zero => simp
  | succ n ih =>
    have hdepth : d + (n + 1 : Nat) + -1 = d + n := by omega
    rw [List.replicate_succ, List.cons_append, group, hdelta, hdepth, if_pos (by omega), ih]
    rfl

/-- The fields behind a line that opens a group, up to its end. -/
theorem fieldsOfLines_opened (h : opener? s = some name) :
    fieldsOfLines [s, fieldLine, ['}']]
      = [⟨['B'], "int".toList, []⟩, ⟨name, "struct".toList, []⟩] := by
  have hgroup : group 1 [fieldLine, ['}']] = ([fieldLine], some (['}'], [])) := by decide +kernel
  have hclose : closer? ['}'] = some [] := by rfl
  rw [fieldsOfLines_of_group h hgroup, hclose, fieldsOfLines_of_none (by decide), fields_fieldLine,
    fieldsOfLines_nil]
  rfl

theorem fieldsOfLines_unopened (h : opener? s = none) :
    fieldsOfLines [s, fieldLine, ['}']] = FieldLine.fields s ++ [⟨['B'], "int".toList, []⟩] := by
  rw [fieldsOfLines_of_none h, fieldsOfLines_of_none (by decide), fieldsOfLines_of_none (by rfl),
    fields_fieldLine, Lone.closing.fields, fieldsOfLines_nil]
  rfl

/-- A group with the line in it, between braces. -/
def around (n k : Nat) (s : Text) : List Text :=
  openingLine :: (List.replicate n ['{'] ++ s :: List.replicate k ['}'])

theorem fieldsOfLines_inside (hs : opener? s = none) (n k : Nat) :
    fieldsOfLines (List.replicate n ['{'] ++ s :: List.replicate k ['}']) = FieldLine.fields s := by
  have hclose := fieldsOfLines_lone .closing k []
  rw [List.append_nil, fieldsOfLines_nil] at hclose
  rw [fieldsOfLines_lone .opening, fieldsOfLines_of_none hs, hclose, List.append_nil]

/-- The last brace closes the group where the line makes up for the others. -/
theorem fieldsOfLines_around (hs : opener? s = none) (hdelta : Brace.delta s = k - n) :
    fieldsOfLines (around n (k + 1) s) = FieldLine.fields s ++ [⟨['A'], "struct".toList, []⟩] := by
  have hend : group 1 [['}']] = ([], some (['}'], [])) := by decide +kernel
  have hclose : closer? ['}'] = some [] := by rfl
  have hline : group (1 + n) (s :: (List.replicate k ['}'] ++ [['}']]))
      = (s :: List.replicate k ['}'], some (['}'], [])) := by
    have hdepth : (1 : Int) + n + Brace.delta s = 1 + k := by omega
    rw [group, hdepth, if_pos (by omega), group_closing Int.one_pos, hend, List.append_nil]
  have hgroup : group 1 (List.replicate n ['{'] ++ s :: List.replicate (k + 1) ['}'])
      = (List.replicate n ['{'] ++ s :: List.replicate k ['}'], some (['}'], [])) := by
    rw [List.replicate_succ', group_opening Int.one_pos, hline]
  rw [around, fieldsOfLines_of_group opener?_openingLine hgroup, fieldsOfLines_inside hs, hclose,
    fieldsOfLines_nil, List.append_nil]
  rfl

/-- The group stays open where the line opens more. -/
theorem fieldsOfLines_around_of_lt (hs : opener? s = none)
    (hdelta : (k : Int) - n < Brace.delta s) :
    fieldsOfLines (around n (k + 1) s) = FieldLine.fields s := by
  obtain ⟨d, hd, hdepth⟩ : ∃ d : Int, 0 < d ∧ 1 + n + Brace.delta s = d + (k + 1 : Nat) :=
    ⟨n + Brace.delta s - k, by omega, by omega⟩
  have hclosing := group_closing hd (k + 1) []
  rw [List.append_nil, group, List.append_nil] at hclosing
  have hgroup : group 1 (List.replicate n ['{'] ++ s :: List.replicate (k + 1) ['}'])
      = (List.replicate n ['{'] ++ s :: List.replicate (k + 1) ['}'], none) := by
    rw [group_opening Int.one_pos, group, hdepth, if_pos (by omega), hclosing]
  rw [around, fieldsOfLines_of_unclosed opener?_openingLine hgroup, fieldsOfLines_inside hs]

/-- The line itself may close the group. -/
theorem fieldsOfLines_around_zero (hdelta : Brace.delta s = -1 - n) :
    fieldsOfLines (around n 0 s)
      = (closer? s).toList.map fun tag => (⟨['A'], "struct".toList, tag⟩ : FieldDecl) := by
  have hgroup : group 1 (List.replicate n ['{'] ++ s :: List.replicate 0 ['}'])
      = (List.replicate n ['{'], some (s, [])) := by
    rw [group_opening Int.one_pos, group, if_neg (by omega), List.append_nil]
    rfl
  have hopen := fieldsOfLines_lone .opening n []
  rw [List.append_nil, fieldsOfLines_nil] at hopen
  rw [around, fieldsOfLines_of_group opener?_openingLine hgroup, hopen, fieldsOfLines_nil,
    List.append_nil, List.nil_append]

theorem settled_around {x : Text} (n k : Nat) :
    (x ∈ openingLine :: List.replicate n ['{'] → Settled x) ∧
    (x ∈ List.replicate k ['}'] → Settled x) := by
  constructor
  · intro hx
    rcases List.mem_cons.mp hx with rfl | hx
    · exact settled_openingLine
    · rw [List.eq_of_mem_replicate hx]
      exact Lone.opening.settled
  · intro hx
    rw [List.eq_of_mem_replicate hx]
    exact Lone.closing.settled

theorem opened_ne_unopened (h : opener? s = some name) (h' : opener? s' = none) :
    fieldsOfLines [s, fieldLine, ['}']] ≠ fieldsOfLines [s', fieldLine, ['}']] := by
  intro heq
  rw [fieldsOfLines_opened h, fieldsOfLines_unopened h'] at heq
  have hlast := congrArg List.getLast? heq
  simp at hlast

theorem opener?_eq
    (h : fieldsOfLines [s, fieldLine, ['}']] = fieldsOfLines [s', fieldLine, ['}']]) :
    opener? s = opener? s' := by
  cases hs : opener? s with
  | none =>
    cases hs' : opener? s' with
    | none => rfl
    | some name => exact absurd h.symm (opened_ne_unopened hs' hs)
  | some name =>
    cases hs' : opener? s' with
    | none => exact absurd h (opened_ne_unopened hs hs')
    | some name' =>
      rw [fieldsOfLines_opened hs, fieldsOfLines_opened hs'] at h
      simpa using h

/-- A line that opens more braces keeps a group open that the other one lets end. -/
theorem not_delta_lt (hs : opener? s = none) (hs' : opener? s' = none)
    (hfields : FieldLine.fields s = FieldLine.fields s')
    (h : ∀ n k, fieldsOfLines (around n k s) = fieldsOfLines (around n k s')) :
    ¬ Brace.delta s < Brace.delta s' := by
  intro hlt
  have hdelta : Brace.delta s = (Brace.delta s).toNat - (-Brace.delta s).toNat := by omega
  have heq := h (-Brace.delta s).toNat ((Brace.delta s).toNat + 1)
  rw [fieldsOfLines_around hs hdelta, fieldsOfLines_around_of_lt hs' (by omega), hfields] at heq
  simp at heq

theorem closer?_eq (hdelta : Brace.delta s = Brace.delta s') (hneg : Brace.delta s < 0)
    (h : ∀ n k, fieldsOfLines (around n k s) = fieldsOfLines (around n k s')) :
    closer? s = closer? s' := by
  have hdepth : Brace.delta s = -1 - (-1 - Brace.delta s).toNat := by omega
  have heq := h (-1 - Brace.delta s).toNat 0
  rw [fieldsOfLines_around_zero hdepth, fieldsOfLines_around_zero (hdelta ▸ hdepth)] at heq
  have hinj : Function.Injective fun tag : Text => (⟨['A'], "struct".toList, tag⟩ : FieldDecl) :=
    fun _ _ heq => (FieldDecl.mk.inj heq).2.2
  have hlist := hinj.list_map heq
  refine Option.ext fun tag => ?_
  rw [← Option.mem_toList, hlist, Option.mem_toList]

/-- What bodies cannot tell apart is alike. -/
theorem alike_of_forall
    (h : ∀ xs ys : List Text, (∀ x ∈ xs, Settled x) → (∀ x ∈ ys, Settled x) →
      fieldsOfLines (xs ++ s :: ys) = fieldsOfLines (xs ++ s' :: ys)) : Alike s s' := by
  have hafter : ∀ x ∈ [fieldLine, ['}']], Settled x :=
    List.forall_mem_cons.mpr ⟨settled_fieldLine, by simpa using Lone.closing.settled⟩
  have hopener : opener? s = opener? s' := opener?_eq (h [] _ (by simp) hafter)
  have haround : ∀ n k, fieldsOfLines (around n k s) = fieldsOfLines (around n k s') := fun n k =>
    h _ _ (fun _ => (settled_around n k).1) (fun _ => (settled_around n k).2)
  cases hs : opener? s with
  | some name =>
    have hdelta := delta_of_opener? hs
    have hdelta' := delta_of_opener? (hopener ▸ hs)
    refine ⟨hopener, fun hnone => ?_, hdelta.trans hdelta'.symm, fun hneg => ?_⟩
    · rw [hs] at hnone
      exact absurd hnone (Option.some_ne_none name)
    · omega
  | none =>
    have hs' : opener? s' = none := hopener ▸ hs
    have hfields : FieldLine.fields s = FieldLine.fields s' := by
      have halone := h [] [] (by simp) (by simp)
      rw [List.nil_append, List.nil_append, fieldsOfLines_of_none hs,
        fieldsOfLines_of_none hs'] at halone
      exact List.append_cancel_right halone
    have hle := not_delta_lt hs hs' hfields haround
    have hge := not_delta_lt hs' hs hfields.symm fun n k => (haround n k).symm
    have hdelta : Brace.delta s = Brace.delta s' := by omega
    exact ⟨hopener, fun _ => hfields, hdelta, fun hneg => closer?_eq hdelta hneg haround⟩

/-- Two lines that say something may stand for each other if and only if they are alike. -/
theorem interchangeable_iff (hl : '\n' ∉ l) (hl' : '\n' ∉ l') (hs : isContent (trim l))
    (hs' : isContent (trim l')) : Interchangeable l l' ↔ Alike (trim l) (trim l') := by
  constructor
  · intro h
    exact alike_of_forall fun xs ys hxs hys => h.fieldsOfLines_eq hl hl' hs hs' hxs hys
  · intro h xs ys hall
    have hrefl : ∀ ls, List.Forall₂ Alike ls ls :=
      fun ls => List.forall₂_same.mpr fun x _ => .refl x
    rw [fields_join hl hall, fields_join hl' hall, contents_singleton hs, contents_singleton hs']
    exact fieldsOfLines_congr (List.rel_append (hrefl _) (.cons h (hrefl _)))

end TagLint.Body
