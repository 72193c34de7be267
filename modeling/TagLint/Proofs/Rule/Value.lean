import TagLint.Rule.Field

/-! The built-in rules for values never give up, read nothing but the value, leave the choice of the
key to their entry, and say nothing of the field as a whole. -/
namespace TagLint
open Text

variable {value template a b t : Text} {e : TagEntry}

namespace Template

/-- A character that is no brace is text. -/
theorem fill_cons {c : Char} (hopen : c ≠ '{') (hclose : c ≠ '}') (value t : Text) :
    fill value (c :: t) = (fill value t).map (c :: ·) := by
  rw [fill]
  · cases fill value t <;> rfl
  all_goals simp_all

theorem fill_append (ha : '{' ∉ a ∧ '}' ∉ a) (value t : Text) :
    fill value (a ++ t) = (fill value t).map (a ++ ·) := by
  induction a with
  | nil => cases h : fill value t <;> simp [h, Except.map]
  | cons c a ih =>
    obtain ⟨hc, hopen⟩ := List.ne_and_not_mem_of_not_mem_cons ha.1
    obtain ⟨hc', hclose⟩ := List.ne_and_not_mem_of_not_mem_cons ha.2
    rw [List.cons_append, fill_cons (Ne.symm hc) (Ne.symm hc'), ih ⟨hopen, hclose⟩]
    cases fill value t <;> rfl

theorem fill_of_not_mem (ha : '{' ∉ a ∧ '}' ∉ a) (value : Text) : fill value a = .ok a := by
  have h := fill_append ha value []
  rw [List.append_nil, fill] at h
  rw [h]
  simp [Except.map]

/-- The value goes where its field stands. -/
theorem fill_field (ha : '{' ∉ a ∧ '}' ∉ a) (hb : '{' ∉ b ∧ '}' ∉ b) (value : Text) :
    fill value (a ++ ("\x7bvalue\x7d".toList ++ b)) = .ok (a ++ (value ++ b)) := by
  have hvalue : fill value ("\x7bvalue\x7d".toList ++ b) = (fill value b).map (value ++ ·) := by
    have hsplit : "\x7bvalue\x7d".toList ++ b = '{' :: ("value".toList ++ ('}' :: b)) := rfl
    have hend : ("value".toList ++ ('}' :: b)).findIdx? (· == '}') = some 5 := rfl
    have hfield : field value (("value".toList ++ ('}' :: b)).take 5) = .ok value := rfl
    have hrest : ("value".toList ++ ('}' :: b)).drop (5 + 1) = b := rfl
    rw [hsplit, fill, hend]
    · simp only [hfield, hrest]
      cases fill value b <;> rfl
    · simp
    · simp
  rw [fill_append ha, hvalue, fill_of_not_mem hb]
  rfl

/-- The value is asked for once, and no other brace stands in the template. -/
def AsksOnce (template : Text) : Prop :=
  let a := template.takeWhile (· != '{')
  let b := template.drop (a.length + 7)
  template = a ++ ("\x7bvalue\x7d".toList ++ b) ∧ '}' ∉ a ∧ '{' ∉ b ∧ '}' ∉ b

instance (template : Text) : Decidable (AsksOnce template) :=
  inferInstanceAs (Decidable (_ = _ ∧ _))

/-- A template that is written out is looked through character by character. -/
theorem AsksOnce.literal {cs : List Char} (h : AsksOnce cs) :
    AsksOnce (String.ofList cs).toList := by
  rwa [String.toList_ofList]

theorem AsksOnce.exists_fill (h : AsksOnce template) (value : Text) :
    ∃ b, template = template.takeWhile (· != '{') ++ ("\x7bvalue\x7d".toList ++ b) ∧
      Template.fill value template = .ok (template.takeWhile (· != '{') ++ (value ++ b)) := by
  obtain ⟨heq, hclose, hb⟩ := h
  refine ⟨_, heq, ?_⟩
  conv =>
    enter [1, 2]
    rw [heq]
  refine fill_field ⟨?_, hclose⟩ hb value
  intro hm
  have := List.all_eq_true.mp List.all_takeWhile _ hm
  simp at this

theorem AsksOnce.fill (h : AsksOnce template) (value : Text) :
    ∃ m, Template.fill value template = .ok (template.takeWhile (· != '{') ++ m) := by
  obtain ⟨b, -, hfill⟩ := h.exists_fill value
  exact ⟨_, hfill⟩

end Template

/-- The finding has no key of its own, and does not open as one on the whole field does. -/
structure Finding.OnEntry (f : Finding) : Prop where
  key : f.key = none
  opening : "Field".toList.isPrefixOf f.message = false

theorem Finding.onEntry_singleton (severity : Severity) {message : Text}
    (h : "Field".toList.isPrefixOf message = false) :
    ∀ f ∈ [(⟨severity, message, none⟩ : Finding)], f.OnEntry :=
  List.forall_mem_singleton.mpr ⟨rfl, h⟩

namespace ValueRule
open Finding

/-- The rule gives findings for every entry, all of them on the entry alone. -/
def JudgesEntry (check : Check) : Prop := ∀ e, ∃ fs, check e = .ok fs ∧ ∀ f ∈ fs, f.OnEntry

theorem judgesEntry_digits (label : Text) (noun : Option Text) :
    JudgesEntry (digits label noun) := by
  intro e
  rw [digits.eq_def]
  split
  · exact ⟨[], rfl, by simp⟩
  · exact ⟨_, rfl, onEntry_singleton _ rfl⟩

theorem judgesEntry_choice {cs : List Char} (h : Template.AsksOnce cs)
    (hopening : ∀ m, "Field".toList.isPrefixOf (cs.takeWhile (· != '{') ++ m) = false)
    (choices : List Text) :
    JudgesEntry (choice (String.ofList cs).toList choices) := by
  intro e
  rw [String.toList_ofList, choice]
  split
  · exact ⟨[], rfl, by simp⟩
  · obtain ⟨m, hm⟩ := h.fill e.value
    rw [hm]
    exact ⟨_, rfl, onEntry_singleton _ (hopening m)⟩

theorem judgesEntry_required {cs : List Char} (h : "Field".toList.isPrefixOf cs = false)
    (severity : Severity) :
    JudgesEntry (required (String.ofList cs).toList severity) := by
  intro e
  rw [String.toList_ofList]
  refine ⟨_, rfl, ?_⟩
  split
  · exact onEntry_singleton _ h
  · simp

theorem judgesEntry_constraint : JudgesEntry constraint := by
  intro e
  rw [constraint]
  split
  · exact ⟨_, rfl, onEntry_singleton _ rfl⟩
  · refine ⟨_, rfl, ?_⟩
    rintro f hf
    obtain ⟨o, -, rfl⟩ := List.mem_map.mp hf
    exact ⟨rfl, rfl⟩

theorem judgesEntry_comment : JudgesEntry comment := by
  intro e
  rw [comment]
  split
  · exact ⟨_, rfl, onEntry_singleton _ rfl⟩
  · refine ⟨_, rfl, ?_⟩
    rw [List.forall_mem_append]
    constructor
    · rw [unmatchedQuotes]
      split
      · simp
      · exact onEntry_singleton _ rfl
    · split
      · exact onEntry_singleton _ rfl
      · simp

theorem judgesEntry_default : JudgesEntry default := by
  intro e
  refine ⟨_, rfl, ?_⟩
  split
  · exact onEntry_singleton _ rfl
  · simp

theorem judgesEntry_builtinChecks : ∀ p ∈ builtinChecks, JudgesEntry p.2 := by
  simp only [builtinChecks, List.forall_mem_cons]
  iterate 6 refine ⟨judgesEntry_digits _ _, ?_⟩
  iterate 7 refine ⟨judgesEntry_choice (by decide +kernel) (fun _ => rfl) _, ?_⟩
  iterate 9 refine ⟨judgesEntry_required rfl _, ?_⟩
  exact ⟨judgesEntry_constraint, judgesEntry_comment, judgesEntry_default, by simp⟩

/-- Of an entry the rule reads its value alone. -/
def ReadsValue (check : Check) : Prop := ∀ a b : TagEntry, a.value = b.value → check a = check b

theorem readsValue_digits (label : Text) (noun : Option Text) : ReadsValue (digits label noun) := by
  intro a b h
  simp only [digits, h]

theorem readsValue_choice (template : Text) (choices : List Text) :
    ReadsValue (choice template choices) := by
  intro a b h
  simp only [choice, h]

theorem readsValue_required (message : Text) (severity : Severity) :
    ReadsValue (required message severity) := by
  intro a b h
  simp only [required, h]

theorem readsValue_constraint : ReadsValue constraint := by
  intro a b h
  simp only [constraint, h]

theorem readsValue_comment : ReadsValue comment := by
  intro a b h
  simp only [comment, h]

theorem readsValue_default : ReadsValue default := by
  intro a b h
  simp only [default, h]

theorem readsValue_builtinChecks : ∀ p ∈ builtinChecks, ReadsValue p.2 := by
  simp only [builtinChecks, List.forall_mem_cons]
  iterate 6 refine ⟨readsValue_digits _ _, ?_⟩
  iterate 7 refine ⟨readsValue_choice _ _, ?_⟩
  iterate 9 refine ⟨readsValue_required _ _, ?_⟩
  exact ⟨readsValue_constraint, readsValue_comment, readsValue_default, by simp⟩

/-- A rule that is found where none was added is a built-in one. -/
theorem exists_check_of_get? {key : Text} {rule : ValueRule}
    (h : RuleBook.get? {} key = some rule) :
    ∃ p ∈ builtinChecks, rule.check = p.2 := by
  obtain ⟨row, hrow, rfl⟩ := Option.map_eq_some_iff.mp h
  have hmem : row ∈ builtin := by
    have := List.mem_of_find?_eq_some hrow
    simpa [RuleBook.rules] using this
  obtain ⟨p, hp, rfl⟩ := List.mem_map.mp hmem
  exact ⟨p, hp, rfl⟩

/-- Rules that read the value alone leave a book with such rules. -/
theorem readsValue_of_get? {b : RuleBook} (hadded : ∀ p ∈ b.added, ReadsValue p.2.check)
    (key : Text) (rule : ValueRule) (h : b.get? key = some rule) : ReadsValue rule.check := by
  obtain ⟨row, hrow, rfl⟩ := Option.map_eq_some_iff.mp h
  rcases List.mem_append.mp (List.mem_of_find?_eq_some hrow) with hmem | hmem
  · obtain ⟨p, hp, rfl⟩ := List.mem_map.mp hmem
    exact readsValue_builtinChecks p hp
  · exact hadded row hmem

end ValueRule

namespace FieldPass

theorem onEntry_of_mem_verdict (c : KeyClass) (e : TagEntry) : ∀ f ∈ verdict c e, f.OnEntry := by
  cases c with
  | recommended => simp [verdict]
  | unknown => exact Finding.onEntry_singleton _ rfl
  | caution => exact Finding.onEntry_singleton _ rfl
  | deprecated => exact Finding.onEntry_singleton _ rfl

theorem valueFindings_ok (e : TagEntry) :
    ∃ fs, valueFindings {} e = .ok fs ∧ ∀ f ∈ fs, f.OnEntry := by
  rw [valueFindings]
  split
  · rename_i rule hrule
    obtain ⟨p, hp, hcheck⟩ := ValueRule.exists_check_of_get? hrule
    rw [hcheck]
    exact ValueRule.judgesEntry_builtinChecks p hp e
  · exact ⟨[], rfl, by simp⟩

/-- What the rules make of a value they make of it under every spelling of its key. -/
theorem valueFindings_congr {r r' : Registry} {a b : TagEntry} (hrules : r.rules = r'.rules)
    (hreads : ∀ key rule, r.rules.get? key = some rule → ValueRule.ReadsValue rule.check)
    (hlowered : a.lowered = b.lowered) (hvalue : a.value = b.value) :
    valueFindings r a = valueFindings r' b := by
  rw [valueFindings, valueFindings, ← hrules, ← hlowered]
  cases hrule : r.rules.get? a.lowered with
  | none => rfl
  | some rule => exact hreads _ _ hrule a b hvalue

end FieldPass
end TagLint
