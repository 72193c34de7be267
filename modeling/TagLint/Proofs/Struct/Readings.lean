import TagLint.Proofs.Struct.SourceBody
import Mathlib.Algebra.BigOperators.Group.List.Basic
import Mathlib.Algebra.Ring.Int.Defs

/-! How the lines of a body are read: which lines open a group, what stands inside it, and which
line ends it. -/
namespace TagLint.Body
open Text Brace

/-- A line that says something, trimmed, with its number in the body. -/
structure NumberedLine where
  number : Nat
  text : Text
deriving DecidableEq, Repr

def numberedFrom (n : Nat) (ls : List Text) : List NumberedLine :=
  ((ls.zipIdx n).map fun p => ⟨p.2, trim p.1⟩).filter fun l => isContent l.text

def numbered (body : Text) : List NumberedLine := numberedFrom 0 (lines body)

/-- A nested struct as it is read: what opens it, the lines inside, and the line that ends it. -/
structure Group where
  name : Text
  opener : NumberedLine
  inner : List NumberedLine
  closing : Option NumberedLine
deriving DecidableEq, Repr

/-- The field that holds a nested struct, if the closing line starts with a brace. -/
def Group.holder (g : Group) : Option FieldDecl :=
  (g.closing.bind fun l => closer? l.text).map fun tag => ⟨g.name, "struct", tag⟩

inductive Reading
  | line (l : NumberedLine)
  | group (g : Group)
deriving DecidableEq, Repr

def Reading.fields : Reading → List FieldDecl
  | line l => FieldLine.fields l.text
  | group g => g.holder.toList

/-- How many lines behind an opener stand in its group. -/
def groupLength (ls : List NumberedLine) : Nat := (group 1 (ls.map (·.text))).1.length

/-- The lines and groups of a body in the order in which they give their fields: a group stands
behind what is inside it. -/
def readings (ls : List NumberedLine) : List Reading :=
  match ls with
  | [] => []
  | l :: rest =>
    match opener? l.text with
    | none => .line l :: readings rest
    | some name =>
      let n := groupLength rest
      readings (rest.take n) ++ .group ⟨name, l, rest.take n, rest[n]?⟩ :: readings
        (rest.drop (n + 1))
termination_by ls.length
decreasing_by all_goals simp only [List.length_cons, List.length_take, List.length_drop]; omega

variable {body name : Text} {l x y : NumberedLine}
  {ls ls' inner inner' after after' : List NumberedLine} {g : Group} {d : Int} {n : Nat}
  {ts : List Text}

/-! ## Numbers -/

@[simp] theorem numberedFrom_nil (n : Nat) : numberedFrom n [] = [] := rfl

theorem numberedFrom_cons (n : Nat) (t : Text) (ts : List Text) :
    numberedFrom n (t :: ts) = [⟨n, trim t⟩].filter (fun l => isContent l.text) ++ numberedFrom
      (n + 1) ts := by
  rw [numberedFrom, List.zipIdx_cons, List.map_cons, ← List.singleton_append, List.filter_append]
  rfl

theorem numberedFrom_append (n : Nat) (ts ts' : List Text) :
    numberedFrom n (ts ++ ts') = numberedFrom n ts ++ numberedFrom (n + ts.length) ts' := by
  simp only [numberedFrom, List.zipIdx_append, List.map_append, List.filter_append]

theorem map_text_numbered (body : Text) :
    (numbered body).map (·.text) = ((lines body).map trim).filter isContent := by
  have hmap : ∀ n (ts : List Text),
      (numberedFrom n ts).map (·.text) = (ts.map trim).filter isContent := by
    intro n ts
    induction ts generalizing n with
    | nil => rfl
    | cons t ts ih =>
      rw [numberedFrom_cons, List.map_append, ih, List.map_cons,
        ← List.singleton_append (x := trim t), List.filter_append]
      cases h : isContent (trim t) <;> simp [h]
  exact hmap 0 (lines body)

theorem number_of_mem_numberedFrom (h : l ∈ numberedFrom n ts) :
    n ≤ l.number ∧ l.number < n + ts.length := by
  obtain ⟨p, hp, rfl⟩ := List.mem_map.mp (List.mem_of_mem_filter h)
  exact ⟨List.le_snd_of_mem_zipIdx hp, List.snd_lt_add_of_mem_zipIdx hp⟩

theorem nodup_numberedFrom (n : Nat) (ts : List Text) : (numberedFrom n ts).Nodup := by
  have hnumbers : (ts.zipIdx n).Pairwise fun p q => p.2 ≠ q.2 := by
    apply List.pairwise_map.mp
    rw [List.zipIdx_map_snd]
    exact List.nodup_range'
  refine (List.pairwise_map.mpr (hnumbers.imp fun hne heq => hne ?_)).filter _
  exact congrArg NumberedLine.number heq

/-! ## Where a group ends -/

/-- Opening less closing braces of several lines, each counted for itself. -/
def total (ls : List NumberedLine) : Int := (ls.map fun l => delta l.text).sum

@[simp] theorem total_nil : total [] = 0 := rfl

@[simp] theorem total_cons (l : NumberedLine) (ls : List NumberedLine) :
    total (l :: ls) = delta l.text + total ls := List.sum_cons

@[simp] theorem total_append (ls ls' : List NumberedLine) :
    total (ls ++ ls') = total ls + total ls' := by
  rw [total, List.map_append, List.sum_append]
  rfl

/-- A group open at depth `d` is open behind each of these lines. -/
def StaysOpen (d : Int) (ls : List NumberedLine) : Prop := ∀ p, p <+: ls → 0 < d + total p

theorem staysOpen_nil : StaysOpen d [] ↔ 0 < d := by
  simp [StaysOpen]

theorem staysOpen_cons : StaysOpen d (l :: ls) ↔ 0 < d ∧ StaysOpen (d + delta l.text) ls := by
  constructor
  · intro h
    refine ⟨by simpa using h [] List.nil_prefix, fun p hp => ?_⟩
    have := h (l :: p) (List.cons_prefix_cons.mpr ⟨rfl, hp⟩)
    rw [total_cons] at this
    omega
  · rintro ⟨hd, h⟩ p hp
    rcases List.prefix_cons_iff.mp hp with rfl | ⟨q, rfl, hq⟩
    · simpa using hd
    · have := h q hq
      rw [total_cons]
      omega

theorem group_of_staysOpen (h : StaysOpen d ls) :
    group d (ls.map (·.text)) = (ls.map (·.text), none) := by
  induction ls generalizing d with
  | nil => rfl
  | cons l ls ih =>
    obtain ⟨-, h⟩ := staysOpen_cons.mp h
    have hd : 0 < d + delta l.text := by simpa using h [] List.nil_prefix
    rw [List.map_cons, group, if_pos hd, ih h]

theorem group_of_end (h : StaysOpen d inner) (hend : d + total inner + delta x.text ≤ 0) :
    group d ((inner ++ x :: after).map (·.text))
      = (inner.map (·.text), some (x.text, after.map (·.text))) := by
  induction inner generalizing d with
  | nil =>
    rw [total_nil] at hend
    rw [List.nil_append, List.map_cons, group, if_neg (by omega)]
    rfl
  | cons l inner ih =>
    obtain ⟨-, h⟩ := staysOpen_cons.mp h
    have hd : 0 < d + delta l.text := by simpa using h [] List.nil_prefix
    rw [total_cons] at hend
    rw [List.cons_append, List.map_cons, group, if_pos hd, ih h (by omega)]
    rfl

/-- A group is never ended, or ended by the first line behind which no group is open. -/
theorem staysOpen_or_exists_end (hd : 0 < d) (ls : List NumberedLine) :
    StaysOpen d ls ∨ ∃ inner x after, ls = inner ++ x :: after ∧ StaysOpen d inner
      ∧ d + total inner + delta x.text ≤ 0 := by
  induction ls generalizing d with
  | nil => exact .inl (staysOpen_nil.mpr hd)
  | cons l ls ih =>
    by_cases hl : 0 < d + delta l.text
    · rcases ih hl with h | ⟨inner, x, after, rfl, h, hend⟩
      · exact .inl (staysOpen_cons.mpr ⟨hd, h⟩)
      · refine .inr ⟨l :: inner, x, after, rfl, staysOpen_cons.mpr ⟨hd, h⟩, ?_⟩
        rw [total_cons]
        omega
    · refine .inr ⟨[], l, ls, rfl, staysOpen_nil.mpr hd, ?_⟩
      rw [total_nil]
      omega

/-- There is one such line. -/
theorem end_unique (h : StaysOpen d inner) (hend : d + total inner + delta x.text ≤ 0)
    (h' : StaysOpen d inner') (hend' : d + total inner' + delta y.text ≤ 0)
    (heq : inner ++ x :: after = inner' ++ y :: after') :
    inner = inner' ∧ x = y ∧ after = after' := by
  have hgroup := congrArg (fun ls => (group d (ls.map (·.text))).1.length) heq
  simp only [group_of_end h hend, group_of_end h' hend', List.length_map] at hgroup
  obtain ⟨hinner, hrest⟩ := List.append_inj heq hgroup
  obtain ⟨hx, hafter⟩ := List.cons.inj hrest
  exact ⟨hinner, hx, hafter⟩

/-! ## Readings -/

@[simp] theorem readings_nil : readings [] = [] := by
  rw [readings]

theorem readings_of_none (h : opener? l.text = none) :
    readings (l :: ls) = .line l :: readings ls := by
  rw [readings, h]

theorem readings_of_staysOpen (hname : opener? l.text = some name) (h : StaysOpen 1 ls) :
    readings (l :: ls) = readings ls ++ [.group ⟨name, l, ls, none⟩] := by
  have hlength : groupLength ls = ls.length := by
    rw [groupLength, group_of_staysOpen h, List.length_map]
  rw [readings, hname]
  simp [hlength, List.drop_eq_nil_of_le]

theorem readings_of_end (hname : opener? l.text = some name) (h : StaysOpen 1 inner)
    (hend : 1 + total inner + delta x.text ≤ 0) :
    readings (l :: (inner ++ x :: after))
      = readings inner ++ .group ⟨name, l, inner, some x⟩ :: readings after := by
  have hlength : groupLength (inner ++ x :: after) = inner.length := by
    rw [groupLength, group_of_end h hend, List.length_map]
  rw [readings, hname]
  simp [hlength]

theorem fieldsOfLines_of_unclosed {line : Text} {rest lines : List Text}
    (h : opener? line = some name)
    (hgroup : group 1 rest = (lines, none)) :
    fieldsOfLines (line :: rest) = fieldsOfLines lines := by
  rw [fieldsOfLines, h]
  simp only
  split
  · rw [hgroup]
  · rename_i closing after hsome
    rw [hgroup] at hsome
    simp at hsome

/-- Lines are read one by one, and a group together with what stands inside it. -/
@[elab_as_elim]
theorem readings_induction {motive : List NumberedLine → Prop} (nil : motive [])
    (line : ∀ l ls, opener? l.text = none → motive ls → motive (l :: ls))
    (unclosed : ∀ l name ls, opener? l.text = some name → StaysOpen 1 ls → motive ls →
      motive (l :: ls))
    (closed : ∀ l name inner x after, opener? l.text = some name → StaysOpen 1 inner →
      1 + total inner + delta x.text ≤ 0 → motive inner → motive after →
      motive (l :: (inner ++ x :: after)))
    (ls : List NumberedLine) : motive ls := by
  induction hn : ls.length using Nat.strongRecOn generalizing ls with
  | ind n ih =>
    subst hn
    cases ls with
    | nil => exact nil
    | cons l ls =>
      have hls : motive ls := ih ls.length (by simp) ls rfl
      cases hname : opener? l.text with
      | none => exact line l ls hname hls
      | some name =>
        rcases staysOpen_or_exists_end Int.one_pos ls with h | ⟨inner, x, after, rfl, h, hend⟩
        · exact unclosed l name ls hname h hls
        · have hlength : (l :: (inner ++ x :: after)).length = inner.length + after.length + 2 := by
            simp only [List.length_cons, List.length_append]
            omega
          have hinner : motive inner := ih inner.length (by omega) inner rfl
          have hafter : motive after := ih after.length (by omega) after rfl
          exact closed l name inner x after hname h hend hinner hafter

theorem fieldsOfLines_eq_flatMap (ls : List NumberedLine) :
    fieldsOfLines (ls.map (·.text)) = (readings ls).flatMap Reading.fields := by
  induction ls using readings_induction with
  | nil => simp
  | line l ls hname ih =>
    rw [List.map_cons, fieldsOfLines_of_none hname, readings_of_none hname, List.flatMap_cons, ih]
    rfl
  | unclosed l name ls hname h ih =>
    rw [List.map_cons, fieldsOfLines_of_unclosed hname (group_of_staysOpen h),
      readings_of_staysOpen hname h, List.flatMap_append, ih]
    simp [Reading.fields, Group.holder]
  | closed l name inner x after hname h hend ihInner ihAfter =>
    rw [List.map_cons, fieldsOfLines_of_group hname (group_of_end h hend),
      readings_of_end hname h hend, List.flatMap_append, List.flatMap_cons, ihInner, ihAfter]
    cases hclose : closer? x.text <;> simp [Reading.fields, Group.holder, hclose]

/-- The fields of a body are those of its lines and groups. -/
theorem fields_eq_flatMap_readings (body : Text) :
    fields body = (readings (numbered body)).flatMap Reading.fields := by
  rw [← fieldsOfLines_eq_flatMap, map_text_numbered]
  rfl

/-- What a group takes of the lines behind its opener. -/
inductive Group.Takes : Group → List NumberedLine → Prop
  | unclosed {name : Text} {l : NumberedLine} {ls : List NumberedLine} (h : StaysOpen 1 ls) :
      Takes ⟨name, l, ls, none⟩ ls
  | closed {name : Text} {l x : NumberedLine} {inner after : List NumberedLine}
    (h : StaysOpen 1 inner)
      (hend : 1 + total inner + delta x.text ≤ 0) :
      Takes ⟨name, l, inner, some x⟩ (inner ++ x :: after)

/-- A group that is read stands in the lines where its opener stands. Where lines go on beyond those
from which it takes its own, the first of them ends a group around it. -/
theorem exists_of_mem_readings (h : .group g ∈ readings ls) :
    ∃ before rest beyond, ls = before ++ g.opener :: (rest ++ beyond) ∧
    opener? g.opener.text = some g.name
      ∧ g.Takes rest ∧ ∀ y ∈ beyond.head?, 1 + total rest + delta y.text < 0 := by
  induction ls using readings_induction with
  | nil => simp at h
  | line l ls hname ih =>
    rw [readings_of_none hname] at h
    obtain ⟨before, rest, beyond, rfl, hg⟩ := ih (by simpa using h)
    exact ⟨l :: before, rest, beyond, rfl, hg⟩
  | unclosed l name ls hname hopen ih =>
    rw [readings_of_staysOpen hname hopen] at h
    rcases List.mem_append.mp h with h | h
    · obtain ⟨before, rest, beyond, rfl, hg⟩ := ih h
      exact ⟨l :: before, rest, beyond, rfl, hg⟩
    · obtain rfl : g = ⟨name, l, ls, none⟩ := by simpa using h
      exact ⟨[], ls, [], by simp, hname, .unclosed hopen, by simp⟩
  | closed l name inner x after hname hopen hend ihInner ihAfter =>
    rw [readings_of_end hname hopen hend] at h
    rcases List.mem_append.mp h with h | h
    · obtain ⟨before, rest, beyond, rfl, hopener, htakes, hbeyond⟩ := ihInner h
      refine ⟨l :: before, rest, beyond ++ x :: after, by simp, hopener, htakes, fun y hy => ?_⟩
      cases beyond with
      | cons z beyond => exact hbeyond y hy
      | nil =>
        -- A group is open before the opener, and this line ends it.
        obtain rfl : x = y := by simpa using hy
        have hbefore : 0 < 1 + total before := hopen before (List.prefix_append _ _)
        have hone : delta g.opener.text = 1 := delta_of_opener? hopener
        simp only [total_append, total_cons, total_nil, hone] at hend
        omega
    · rcases List.mem_cons.mp h with h | h
      · obtain rfl : g = ⟨name, l, inner, some x⟩ := by simpa using h
        exact ⟨[], inner ++ x :: after, [], by simp, hname, .closed hopen hend, by simp⟩
      · obtain ⟨before, rest, beyond, rfl, hg⟩ := ihAfter h
        exact ⟨l :: (inner ++ x :: before), rest, beyond, by simp, hg⟩

/-- What is inside a group is read just before the group. -/
theorem exists_readings_eq (h : .group g ∈ readings ls) :
    ∃ rs rs', readings ls = rs ++ (readings g.inner ++ .group g :: rs') := by
  induction ls using readings_induction with
  | nil => simp at h
  | line l ls hname ih =>
    rw [readings_of_none hname] at h ⊢
    obtain ⟨rs, rs', hrs⟩ := ih (by simpa using h)
    exact ⟨.line l :: rs, rs', by rw [hrs]; rfl⟩
  | unclosed l name ls hname hopen ih =>
    rw [readings_of_staysOpen hname hopen] at h ⊢
    rcases List.mem_append.mp h with h | h
    · obtain ⟨rs, rs', hrs⟩ := ih h
      exact ⟨rs, rs' ++ [.group ⟨name, l, ls, none⟩], by rw [hrs]; simp⟩
    · obtain rfl : g = ⟨name, l, ls, none⟩ := by simpa using h
      exact ⟨[], [], rfl⟩
  | closed l name inner x after hname hopen hend ihInner ihAfter =>
    rw [readings_of_end hname hopen hend] at h ⊢
    rcases List.mem_append.mp h with h | h
    · obtain ⟨rs, rs', hrs⟩ := ihInner h
      exact ⟨rs, rs' ++ .group ⟨name, l, inner, some x⟩ :: readings after, by rw [hrs]; simp⟩
    · rcases List.mem_cons.mp h with h | h
      · obtain rfl : g = ⟨name, l, inner, some x⟩ := by simpa using h
        exact ⟨[], readings after, rfl⟩
      · obtain ⟨rs, rs', hrs⟩ := ihAfter h
        exact ⟨readings inner ++ .group ⟨name, l, inner, some x⟩ :: rs, rs', by rw [hrs]; simp⟩

/-- The fields inside a group come just before the field that holds it. -/
theorem exists_fields_eq (h : .group g ∈ readings (numbered body)) :
    ∃ fs fs',
      fields body = fs ++ (fieldsOfLines (g.inner.map (·.text)) ++ g.holder.toList ++ fs') := by
  obtain ⟨rs, rs', hrs⟩ := exists_readings_eq h
  refine ⟨rs.flatMap Reading.fields, rs'.flatMap Reading.fields, ?_⟩
  rw [fields_eq_flatMap_readings, hrs, fieldsOfLines_eq_flatMap]
  simp [Reading.fields]

/-- Lines that end no group do not reach a line that ends one. -/
theorem not_staysOpen_of_end {rest beyond : List NumberedLine} (h : StaysOpen 1 inner)
    (hend : 1 + total inner + delta x.text = 0) (heq : rest ++ beyond = inner ++ x :: after)
    (hbeyond : ∀ y ∈ beyond.head?, 1 + total rest + delta y.text < 0) : ¬ StaysOpen 1 rest := by
  intro hrest
  rcases List.append_eq_append_iff.mp heq with ⟨ls, rfl, rfl⟩ | ⟨ls, rfl, hls⟩
  · cases ls with
    | nil =>
      have hx := hbeyond x (by simp)
      rw [List.append_nil] at hend
      omega
    | cons y ls =>
      have hy := hbeyond y (by simp)
      have hpos := h (rest ++ [y]) (by simp)
      simp only [total_append, total_cons, total_nil] at hpos
      omega
  · cases ls with
    | nil =>
      have hx := hbeyond x (by rw [List.nil_append] at hls; rw [← hls]; simp)
      rw [List.append_nil] at hx
      omega
    | cons z ls =>
      obtain ⟨rfl, -⟩ := List.cons.inj hls
      have hpos := hrest (inner ++ [x]) (by simp)
      simp only [total_append, total_cons, total_nil] at hpos
      omega

/-- A group takes the lines up to the one at which exactly what it opened is closed. -/
theorem inner_eq_of_balanced (h : .group g ∈ readings ls) {before : List NumberedLine}
    (hnodup : ls.Nodup)
    (hls : ls = before ++ g.opener :: (inner ++ x :: after)) (hopen : StaysOpen 1 inner)
    (hend : 1 + total inner + delta x.text = 0) : g.inner = inner ∧ g.closing = some x := by
  obtain ⟨before', rest, beyond, hls', -, htakes, hbeyond⟩ := exists_of_mem_readings h
  have hbefore : g.opener ∉ before := by
    intro hm
    rw [hls] at hnodup
    exact (List.nodup_append.mp hnodup).2.2 _ hm _ List.mem_cons_self rfl
  have hafter : g.opener ∉ inner ++ x :: after := by
    rw [hls] at hnodup
    exact (List.nodup_cons.mp (List.nodup_append.mp hnodup).2.1).1
  obtain ⟨-, -, heq⟩ := (List.append_cons_inj_of_notMem hbefore hafter).mp (hls.symm.trans hls')
  cases htakes with
  | unclosed hrest => exact absurd hrest (not_staysOpen_of_end hopen hend heq.symm hbeyond)
  | @closed name l y inner' after' hinner hy =>
    rw [List.append_assoc, List.cons_append] at heq
    obtain ⟨rfl, rfl, -⟩ := end_unique hopen (by omega) hinner hy heq
    exact ⟨rfl, rfl⟩

end TagLint.Body
