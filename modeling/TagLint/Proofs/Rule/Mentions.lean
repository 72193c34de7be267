import Mathlib.Data.List.Nodup
import TagLint.Validate

/-! The names that the entries of a struct's fields mention, field by field. -/
namespace TagLint.StructRule
open Text

variable {σ : Type} {scanned : List ScannedField} {name : Text}

/-- A field with the entries of its tag, and its place among the fields of the struct. -/
structure Placed where
  place : Nat
  field : FieldDecl
  entries : List TagEntry
deriving DecidableEq, Repr

/-- The tagged fields of a struct with their entries. -/
def scannedFields (v : Vocabulary) (s : StructDecl) : List ScannedField :=
  (s.fields.filter FieldDecl.isTagged).map fun f => (f, f.entries v)

def placed (scanned : List ScannedField) : List Placed :=
  scanned.zipIdx.map fun ((f, entries), i) => ⟨i, f, entries⟩

/-- An entry of a field mentions a name. -/
structure Mention where
  place : Nat
  field : FieldDecl
  entry : TagEntry
  name : Text
deriving DecidableEq, Repr

variable (name? : TagEntry → Option Text)

/-- What a field mentions, entry by entry. -/
def Placed.mentions (q : Placed) : List Mention :=
  q.entries.filterMap fun e => (name? e).map (⟨q.place, q.field, e, ·⟩)

def mentions (scanned : List ScannedField) : List Mention :=
  (placed scanned).flatMap (·.mentions name?)

/-- The entries of a field that mention one name. -/
def Placed.mentionsOf (q : Placed) (name : Text) : List Mention :=
  (q.entries.filter (name? · = some name)).map (⟨q.place, q.field, ·, name⟩)

/-- The fields that mention a name, in order. -/
def users (scanned : List ScannedField) (name : Text) : List Placed :=
  (placed scanned).filter fun q => q.entries.any (name? · = some name)

/-- The loop over the fields and, in each, over its entries; an entry without a name is passed
over. -/
def eachMention (onMention : σ → Mention → σ) (start : σ) (scanned : List ScannedField) : σ :=
  (placed scanned).foldl (fun s q => q.entries.foldl (fun s e =>
    match name? e with
    | some name => onMention s ⟨q.place, q.field, e, name⟩
    | none => s) s) start

/-- What gives nothing may be left out. -/
theorem flatMap_filter_of_nil {α β : Type} {p : α → Bool} {g : α → List β}
    (h : ∀ x, p x = false → g x = [])
    (l : List α) : (l.filter p).flatMap g = l.flatMap g := by
  induction l with
  | nil => rfl
  | cons x l ih =>
    cases hx : p x with
    | true => rw [List.filter_cons_of_pos hx, List.flatMap_cons, List.flatMap_cons, ih]
    | false =>
      rw [List.filter_cons_of_neg (by simp [hx]), List.flatMap_cons, h x hx, ih, List.nil_append]

/-! ## Places -/

theorem map_placed (scanned : List ScannedField) :
    (placed scanned).map (fun q => (q.field, q.entries)) = scanned := by
  simp [placed, Function.comp_def]

theorem nodup_places (scanned : List ScannedField) : ((placed scanned).map Placed.place).Nodup := by
  have hrange : (placed scanned).map Placed.place = List.range scanned.length := by
    simp [placed, Function.comp_def, List.range_eq_range']
  exact hrange ▸ List.nodup_range

theorem nodup_places_users (scanned : List ScannedField) (name : Text) :
    ((users name? scanned name).map Placed.place).Nodup :=
  (nodup_places scanned).sublist (List.filter_sublist.map _)

/-! ## Mentions -/

theorem eachMention_eq (onMention : σ → Mention → σ) (start : σ) (scanned : List ScannedField) :
    eachMention name? onMention start scanned = (mentions name? scanned).foldl onMention start := by
  rw [mentions, List.foldl_flatMap]
  refine List.foldl_ext _ _ _ fun s q _ => ?_
  rw [Placed.mentions, List.foldl_filterMap]
  refine List.foldl_ext _ _ _ fun s e _ => ?_
  cases name? e <;> rfl

variable {name?}

theorem field_of_mem_mentionsOf {m : Mention} {q : Placed} (hm : m ∈ q.mentionsOf name? name) :
    m.field = q.field ∧ m.place = q.place ∧ m.name = name := by
  obtain ⟨e, -, rfl⟩ := List.mem_map.mp hm
  exact ⟨rfl, rfl, rfl⟩

theorem mentionsOf_ne_nil_iff {q : Placed} :
    q.mentionsOf name? name ≠ [] ↔ q.entries.any (name? · = some name) := by
  simp [Placed.mentionsOf, List.filter_eq_nil_iff]

theorem mentionsOf_ne_nil {q : Placed} (hq : q ∈ users name? scanned name) :
    q.mentionsOf name? name ≠ [] :=
  mentionsOf_ne_nil_iff.mpr (List.mem_filter.mp hq).2

theorem Placed.filter_mentions (q : Placed) (name : Text) :
    (q.mentions name?).filter (·.name = name) = q.mentionsOf name? name := by
  obtain ⟨place, field, entries⟩ := q
  simp only [mentions, mentionsOf]
  induction entries with
  | nil => rfl
  | cons e entries ih =>
    cases hname : name? e with
    | none => simpa [hname] using ih
    | some n =>
      by_cases hn : n = name
      · simp [hname, hn, ih]
      · simp [hname, hn, ih]

/-- The mentions of one name are those in the fields that use it. -/
theorem filter_mentions (scanned : List ScannedField) (name : Text) :
    (mentions name? scanned).filter (·.name = name)
      = (users name? scanned name).flatMap (·.mentionsOf name? name) := by
  have hunused : ∀ q : Placed, q.entries.any (name? · = some name) = false →
      q.mentionsOf name? name = [] := by
    intro q hq
    by_contra hsome
    simp [mentionsOf_ne_nil_iff.mp hsome] at hq
  rw [mentions, users, flatMap_filter_of_nil hunused, List.filter_flatMap]
  exact List.flatMap_congr fun q _ => q.filter_mentions name

theorem map_name_mentions (name? : TagEntry → Option Text) (scanned : List ScannedField) :
    (mentions name? scanned).map (·.name) = scanned.flatMap fun (_, entries) =>
      entries.filterMap name? := by
  rw [mentions, List.map_flatMap]
  conv_rhs => rw [← map_placed scanned]
  rw [List.flatMap_map]
  refine List.flatMap_congr fun q _ => ?_
  rw [Placed.mentions, List.map_filterMap]
  refine List.filterMap_congr fun e _ => ?_
  rw [Option.map_map]
  exact Option.map_id'

/-! ## The first mention in each field -/

/-- The fields that mention a name, each with the entry that does so first. -/
def members (name? : TagEntry → Option Text) (scanned : List ScannedField) (name : Text) :
    List Mention :=
  (users name? scanned name).filterMap fun q => (q.mentionsOf name? name).head?

theorem name_of_mem_members {m : Mention} (hm : m ∈ members name? scanned name) :
    m.name = name := by
  obtain ⟨q, -, hhead⟩ := List.mem_filterMap.mp hm
  exact (field_of_mem_mentionsOf (List.mem_of_mem_head? hhead)).2.2

/-- There is one member for each field that mentions the name, in order. -/
theorem forall₂_members (name? : TagEntry → Option Text) (scanned : List ScannedField)
    (name : Text) :
    (users name? scanned name).Forall₂ (fun q m => (q.mentionsOf name? name).head? = some m)
      (members name? scanned name) := by
  have huses : ∀ q ∈ users name? scanned name, q.mentionsOf name? name ≠ [] :=
    fun q hq => mentionsOf_ne_nil hq
  rw [members]
  generalize users name? scanned name = qs at huses ⊢
  induction qs with
  | nil => exact .nil
  | cons q qs ih =>
    obtain ⟨hq, huses⟩ := List.forall_mem_cons.mp huses
    obtain ⟨m, ms, hms⟩ := List.exists_cons_of_ne_nil hq
    have hhead : (q.mentionsOf name? name).head? = some m := by rw [hms]; rfl
    rw [List.filterMap_cons, hhead]
    exact .cons hhead (ih huses)

theorem head?_mentionsOf (q : Placed) (name : Text) :
    (q.mentionsOf name? name).head?
      = (q.entries.find? (name? · = some name)).map (⟨q.place, q.field, ·, name⟩) := by
  rw [Placed.mentionsOf, List.head?_map, List.head?_filter]

/-- Looking for the first entry in each field finds the members. -/
theorem filterMap_first (name? : TagEntry → Option Text) (scanned : List ScannedField)
    (name : Text) :
    (scanned.filterMap fun (f, entries) => (entries.find? (name? · = some name)).map fun e =>
      (f, e.token))
      = (members name? scanned name).map fun m => (m.field, m.entry.token) := by
  rw [members, users, List.filterMap_filter, List.map_filterMap]
  conv_lhs => rw [← map_placed scanned]
  rw [List.filterMap_map]
  refine List.filterMap_congr fun q _ => ?_
  simp only [Function.comp_apply, head?_mentionsOf]
  cases hfind : q.entries.find? (name? · = some name) with
  | none => simp
  | some e =>
    have hname : name? e = some name := by simpa using List.find?_some hfind
    have hany : q.entries.any (name? · = some name) :=
      List.any_eq_true.mpr ⟨e, List.mem_of_find?_eq_some hfind, decide_eq_true hname⟩
    simp [hany]

end TagLint.StructRule
