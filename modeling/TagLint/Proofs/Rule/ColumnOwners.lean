import Mathlib.Data.List.Find
import Mathlib.Data.List.Induction
import TagLint.Proofs.Registry.Dict
import TagLint.Proofs.Rule.Mentions

/-! Columns that several fields of a struct name: who owns them, and what is reported of the
others. -/
namespace TagLint.StructRule
open Text

variable {s : StructDecl} {scanned : List ScannedField} {ms : List Mention} {m : Mention}
  {name owner : Text} {q : Placed} {later : List Placed}

/-- The column that an entry names; without a value it names none. -/
def columnName? (e : TagEntry) : Option Text :=
  if e.lowered = column ∧ e.value ≠ [] then some e.value else none

/-- A field names a column that belongs to a field of another name. -/
structure Conflict where
  mention : Mention
  owner : Text
deriving DecidableEq, Repr

def Conflict.diagnostic (s : StructDecl) (c : Conflict) : Diagnostic :=
  StructRule.diagnostic s c.mention.field (.error ("Duplicate column name '" ++ c.mention.name
    ++ "' already used by field '" ++ c.owner
    ++ "'. Each column name must be unique within the struct.")) c.mention.entry.token

/-- The name of the field that owns each column so far, and the conflicts found. -/
structure Ownership where
  owners : List (Text × Text) := []
  conflicts : List Conflict := []

def Ownership.add (o : Ownership) (m : Mention) : Ownership :=
  match Dict.get? m.name o.owners with
  | none => { o with owners := Dict.set m.name m.field.name o.owners }
  | some owner =>
    if owner = m.field.name then o else { o with conflicts := o.conflicts ++ [⟨m, owner⟩] }

def columnConflicts (scanned : List ScannedField) : List Conflict :=
  (eachMention columnName? Ownership.add {} scanned).conflicts

/-! ## The loop keeps the first field of each column -/

/-- The conflict of a mention, when the first of all mentions of its column decides. -/
def conflict? (ms : List Mention) (m : Mention) : Option Conflict :=
  (ms.find? (·.name = m.name)).bind fun first =>
    if first.field.name = m.field.name then none else some ⟨m, first.field.name⟩

theorem Ownership.owners_add (o : Ownership) (m : Mention) :
    (o.add m).owners = if (Dict.get? m.name o.owners).isSome then o.owners
      else Dict.set m.name m.field.name o.owners := by
  rw [Ownership.add]
  cases Dict.get? m.name o.owners with
  | none => rfl
  | some owner =>
    simp only [Option.isSome_some, reduceIte]
    split <;> rfl

theorem get?_owners (ms : List Mention) (name : Text) :
    Dict.get? name (ms.foldl Ownership.add {}).owners
      = (ms.find? (·.name = name)).map (·.field.name) := by
  induction ms using List.reverseRecOn generalizing name with
  | nil => rfl
  | append_singleton ms m ih =>
    rw [List.foldl_concat, Ownership.owners_add, ih, Option.isSome_map, List.find?_append,
      List.find?_singleton]
    by_cases hm : m.name = name
    · subst hm
      cases hfirst : ms.find? (·.name = m.name) with
      | none => simp [Dict.get?_set_self]
      | some first => simp [ih, hfirst]
    · have hrest : ((ms.find? (·.name = name)).or (if m.name = name then some m else none))
          = ms.find? (·.name = name) := by
        rw [if_neg hm, Option.or_none]
      simp only [decide_eq_true_eq, hrest]
      split
      · exact ih name
      · rw [Dict.get?_set_of_ne hm, ih]

theorem Ownership.conflicts_add (o : Ownership) (m : Mention) :
    (o.add m).conflicts = o.conflicts ++ ((Dict.get? m.name o.owners).bind fun owner =>
      if owner = m.field.name then none else some ⟨m, owner⟩).toList := by
  rw [Ownership.add]
  cases Dict.get? m.name o.owners with
  | none => simp
  | some owner => by_cases h : owner = m.field.name <;> simp [h]

/-- Whoever comes first among the mentions so far comes first among all of them. -/
theorem conflict?_append (hm : m ∈ ms) (more : List Mention) :
    conflict? (ms ++ more) m = conflict? ms m := by
  obtain ⟨first, hfirst⟩ : ∃ first, ms.find? (·.name = m.name) = some first :=
    Option.isSome_iff_exists.mp (List.find?_isSome.mpr ⟨m, hm, by simp⟩)
  rw [conflict?, conflict?, List.find?_append, hfirst]
  rfl

theorem conflicts_eq (ms : List Mention) :
    (ms.foldl Ownership.add {}).conflicts = ms.filterMap (conflict? ms) := by
  induction ms using List.reverseRecOn with
  | nil => rfl
  | append_singleton ms m ih =>
    have hbefore : ms.filterMap (conflict? (ms ++ [m])) = ms.filterMap (conflict? ms) :=
      List.filterMap_congr fun m' hm' => conflict?_append hm' [m]
    have hlast : [m].filterMap (conflict? (ms ++ [m])) = (conflict? (ms ++ [m]) m).toList := by
      cases h : conflict? (ms ++ [m]) m <;> simp [h]
    rw [List.foldl_concat, Ownership.conflicts_add, ih, List.filterMap_append, hbefore, hlast,
      get?_owners, conflict?, List.find?_append]
    -- The last mention is the first of its column, or another one was before it.
    cases hfirst : ms.find? (·.name = m.name) with
    | none => simp
    | some first => simp

theorem columnName?_eq_some_iff {e : TagEntry} :
    columnName? e = some name ↔ e.lowered = column ∧ e.value = name ∧ name ≠ [] := by
  simp only [columnName?, Option.ite_none_right_eq_some, Option.some.injEq]
  constructor
  · rintro ⟨⟨hkey, hne⟩, rfl⟩
    exact ⟨hkey, rfl, hne⟩
  · rintro ⟨hkey, rfl, hne⟩
    exact ⟨⟨hkey, hne⟩, rfl⟩

theorem name_of_mem_mentions (hm : m ∈ mentions columnName? scanned) : m.name = m.entry.value := by
  obtain ⟨q, -, hm⟩ := List.mem_flatMap.mp hm
  obtain ⟨e, -, hmention⟩ := List.mem_filterMap.mp hm
  obtain ⟨name, hname, rfl⟩ := Option.map_eq_some_iff.mp hmention
  exact (columnName?_eq_some_iff.mp hname).2.1.symm

theorem columnClaims_eq (scanned : List ScannedField) :
    columnClaims scanned = (mentions columnName? scanned).map fun m => (m.field, m.entry) := by
  rw [columnClaims, mentions, List.map_flatMap]
  conv_lhs => rw [← map_placed scanned]
  rw [List.flatMap_map]
  refine List.flatMap_congr fun q _ => ?_
  simp only [Placed.mentions]
  induction q.entries with
  | nil => rfl
  | cons e entries ih =>
    by_cases h : e.lowered = column ∧ e.value ≠ []
    · have hname : columnName? e = some e.value := if_pos h
      rw [List.filter_cons_of_pos (by simpa using h), List.map_cons, ih, List.filterMap_cons, hname]
      rfl
    · have hname : columnName? e = none := if_neg h
      rw [List.filter_cons_of_neg (by simpa using h), ih, List.filterMap_cons, hname]
      rfl

theorem owner?_mentions (column : Text) :
    owner? ((mentions columnName? scanned).map fun m => (m.field, m.entry)) column
      = ((mentions columnName? scanned).find? (·.name = column)).map (·.field) := by
  rw [owner?, List.find?_map, Option.map_map]
  congr 1
  refine List.find?_congr fun m hm => ?_
  simp [name_of_mem_mentions hm]

/-- The loop reports what the rule says: a mention conflicts with the first field that names the
column. -/
theorem columnNames_eq (s : StructDecl) (scanned : List ScannedField) :
    columnNames s scanned = (columnConflicts scanned).map (·.diagnostic s) := by
  rw [columnNames, columnConflicts, eachMention_eq, conflicts_eq, columnClaims_eq,
    List.map_filterMap]
  simp only [List.filterMap_map]
  refine List.filterMap_congr fun m hm => ?_
  have hname := name_of_mem_mentions hm
  simp only [Function.comp_apply, owner?_mentions, conflict?, hname]
  cases (mentions columnName? scanned).find? (·.name = m.entry.value) with
  | none => rfl
  | some first =>
    by_cases h : first.field.name = m.field.name
    · simp [h]
    · simp [h, Conflict.diagnostic, hname]

/-! ## The conflicts over one column -/

theorem mention_of_conflict? {c : Conflict} (h : conflict? ms m = some c) : c.mention = m := by
  obtain ⟨first, -, h⟩ := Option.bind_eq_some_iff.mp h
  split at h
  · contradiction
  · obtain rfl := Option.some.inj h
    rfl

theorem filter_conflicts (ms : List Mention) (name : Text) :
    (ms.filterMap (conflict? ms)).filter (·.mention.name = name)
      = (ms.filter (·.name = name)).filterMap (conflict? ms) := by
  rw [List.filter_filterMap, List.filterMap_filter]
  refine List.filterMap_congr fun m _ => ?_
  cases hconflict : conflict? ms m with
  | none => simp
  | some c => simp [Option.filter, mention_of_conflict? hconflict]

/-- Every field behind the first one that has another name is reported, for each of its mentions. -/
theorem conflicts_over (scanned : List ScannedField) (name : Text) :
    (columnConflicts scanned).filter (·.mention.name = name)
      = match users columnName? scanned name with
      | [] => []
      | owner :: later => (later.filter (·.field.name ≠ owner.field.name)).flatMap fun q =>
          (q.mentionsOf columnName? name).map (⟨·, owner.field.name⟩) := by
  rw [columnConflicts, eachMention_eq, conflicts_eq, filter_conflicts, filter_mentions]
  cases husers : users columnName? scanned name with
  | nil => rfl
  | cons owner later =>
    have howner : owner.mentionsOf columnName? name ≠ [] :=
      mentionsOf_ne_nil (husers ▸ List.mem_cons_self)
    obtain ⟨first, rest, hfirst⟩ := List.exists_cons_of_ne_nil howner
    have hfind : (mentions columnName? scanned).find? (·.name = name) = some first := by
      rw [← List.head?_filter, filter_mentions, husers, List.flatMap_cons, hfirst]
      rfl
    have hfield : first.field = owner.field :=
      (field_of_mem_mentionsOf (hfirst ▸ List.mem_cons_self)).1
    have hconflict :
        ∀ q : Placed,
        (q.mentionsOf columnName? name).filterMap (conflict? (mentions columnName? scanned))
        = if owner.field.name = q.field.name then []
          else (q.mentionsOf columnName? name).map (⟨·, owner.field.name⟩) := by
      intro q
      have hall : ∀ m ∈ q.mentionsOf columnName? name, conflict? (mentions columnName? scanned) m
          = if owner.field.name = q.field.name then none else some ⟨m, owner.field.name⟩ := by
        intro m hm
        obtain ⟨hmField, -, hmName⟩ := field_of_mem_mentionsOf hm
        rw [conflict?, hmName, hfind, Option.bind_some, hfield, hmField]
      rw [List.filterMap_congr hall]
      split
      · simp
      · exact congrFun List.filterMap_eq_map' _
    rw [List.filterMap_flatMap, List.flatMap_cons, hconflict, if_pos rfl, List.nil_append]
    rw [← flatMap_filter_of_nil (p := fun q => q.field.name ≠ owner.field.name)]
    · refine List.flatMap_congr fun q hq => ?_
      have hne : q.field.name ≠ owner.field.name := by simpa using (List.mem_filter.mp hq).2
      rw [hconflict, if_neg (Ne.symm hne)]
    · intro q hq
      have hsame : q.field.name = owner.field.name := by simpa using hq
      rw [hconflict, if_pos hsame.symm]

/-! ## One error for each later field -/

/-- What is reported over a column: the place of each field, and whom it is told to own the
column. -/
def reportedOver (scanned : List ScannedField) (name : Text) : List (Nat × Text) :=
  ((columnConflicts scanned).filter (·.mention.name = name)).map fun c => (c.mention.place, c.owner)

/-- Each field that names the column behind the first one is reported once, with the first one as
owner. -/
def ReportedOnce (scanned : List ScannedField) (name : Text) : Prop :=
  reportedOver scanned name = match users columnName? scanned name with
    | [] => []
    | owner :: later => later.map fun q => (q.place, owner.field.name)

instance : Decidable (ReportedOnce scanned name) := inferInstanceAs (Decidable (_ = _))

/-- No field behind the first one has its name, and none names the column twice. -/
def NamedApart (scanned : List ScannedField) (name : Text) : Prop :=
  match users columnName? scanned name with
  | [] => True
  | owner :: later =>
    ∀ q ∈ later, q.field.name ≠ owner.field.name ∧ (q.mentionsOf columnName? name).length = 1

theorem map_place_mentionsOf (q : Placed) (name owner : Text) :
    (q.mentionsOf columnName? name).map (fun m => (m.place, owner))
      = List.replicate (q.mentionsOf columnName? name).length (q.place, owner) := by
  simp [Placed.mentionsOf, Function.comp_def]

/-- Fields at different places are reported once each only where each has one report. -/
theorem reports_eq_iff {count : Placed → Nat} (hnodup : (later.map Placed.place).Nodup)
    (hcount : ∀ q ∈ later, count q ≠ 0) :
    (later.filter (·.field.name ≠ owner)).flatMap
      (fun q => List.replicate (count q) (q.place, owner))
        = later.map (fun q => (q.place, owner))
      ↔ ∀ q ∈ later, q.field.name ≠ owner ∧ count q = 1 := by
  induction later with
  | nil => simp
  | cons q later ih =>
    obtain ⟨hplace, hnodup⟩ := List.nodup_cons.mp hnodup
    obtain ⟨hq, hcount⟩ := List.forall_mem_cons.mp hcount
    have ih := ih hnodup hcount
    have hmap : (q.place, owner) ∉ later.map fun q => (q.place, owner) := by
      intro hmem
      obtain ⟨q', hq', heq⟩ := List.mem_map.mp hmem
      exact hplace (List.mem_map.mpr ⟨q', hq', (Prod.mk.inj heq).1⟩)
    rw [List.map_cons, List.forall_mem_cons]
    by_cases hname : q.field.name ≠ owner
    · rw [List.filter_cons_of_pos (by simpa using hname), List.flatMap_cons]
      obtain ⟨n, hn⟩ := Nat.exists_eq_succ_of_ne_zero hq
      cases n with
      | zero =>
        rw [hn]
        simpa [hname] using ih
      | succ n =>
        refine iff_of_false ?_ (by simp [hn])
        rw [hn, List.replicate_succ, List.replicate_succ, List.cons_append, List.cons_append]
        intro heq
        exact hmap ((List.cons.inj heq).2 ▸ List.mem_cons_self)
    · rw [List.filter_cons_of_neg (by simpa using hname)]
      refine iff_of_false ?_ (by simp [hname])
      intro heq
      obtain ⟨q', hq', hmem⟩ := List.mem_flatMap.mp (heq ▸ List.mem_cons_self)
      have hsame : q.place = q'.place := (Prod.mk.inj (List.eq_of_mem_replicate hmem)).1
      exact hplace (hsame ▸ List.mem_map_of_mem (List.mem_filter.mp hq').1)

theorem reportedOnce_iff (scanned : List ScannedField) (name : Text) :
    ReportedOnce scanned name ↔ NamedApart scanned name := by
  rw [ReportedOnce, reportedOver, conflicts_over, NamedApart]
  have hnodup := nodup_places_users columnName? scanned name
  cases husers : users columnName? scanned name with
  | nil => simp
  | cons owner later =>
    rw [husers, List.map_cons, List.nodup_cons] at hnodup
    have hcount : ∀ q ∈ later, (q.mentionsOf columnName? name).length ≠ 0 := by
      intro q hq
      rw [Ne, List.length_eq_zero_iff]
      exact mentionsOf_ne_nil (husers ▸ List.mem_cons_of_mem _ hq)
    simp only [List.map_flatMap, List.map_map, Function.comp_def, map_place_mentionsOf]
    exact reports_eq_iff hnodup.2 hcount

/-- The first field that names a column owns it. Every other field is reported against it, once for
each entry that names the column, unless it has the name of the owner. So each later field is
reported once, and no other field, iff none of them is a namesake of the owner and none names the
column twice. -/
theorem columnNames_once_iff (s : StructDecl) (scanned : List ScannedField) :
    columnNames s scanned = (columnConflicts scanned).map (·.diagnostic s) ∧
    ∀ name, ((columnConflicts scanned).filter (·.mention.name = name)
      = match users columnName? scanned name with
        | [] => []
        | owner :: later => (later.filter (·.field.name ≠ owner.field.name)).flatMap fun q =>
            (q.mentionsOf columnName? name).map (⟨·, owner.field.name⟩)) ∧
      (ReportedOnce scanned name ↔ NamedApart scanned name) :=
  ⟨columnNames_eq s scanned, fun name =>
    ⟨conflicts_over scanned name, reportedOnce_iff scanned name⟩⟩

def claimedText : Text :=
  "type A struct \x7b\n N int `gorm:\"column:c\"`\n M int `gorm:\"column:c;column:c\"`\n".toList
    ++ " G struct \x7b\n  N int `gorm:\"column:c\"`\n \x7d\n\x7d".toList

/-- A later field names the column twice, and a field of a group is a namesake of the owner. -/
def claimed : StructDecl :=
  ⟨"A", [⟨"N", "int", "gorm:\"column:c\""⟩, ⟨"M", "int", "gorm:\"column:c;column:c\""⟩,
    ⟨"N", "int", "gorm:\"column:c\""⟩, ⟨"G", "struct", []⟩]⟩

/-- The field that names the column twice is reported twice, and the namesake is not reported. -/
theorem claimed_not_once :
    structs claimedText = [claimed]
      ∧ (users columnName? (scannedFields {} claimed) "c").map (fun q => (q.place, q.field.name))
        = [(0, "N".toList), (1, "M".toList), (2, "N".toList)]
      ∧ reportedOver (scannedFields {} claimed) "c" = [(1, "N".toList), (1, "N".toList)]
      ∧ ¬ ReportedOnce (scannedFields {} claimed) "c" := by
  refine ⟨?_, ?_, ?_, ?_⟩
  · decide +kernel
  · decide +kernel
  · decide +kernel
  · decide +kernel

end TagLint.StructRule
