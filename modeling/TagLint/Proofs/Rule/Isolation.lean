import TagLint.Proofs.Rule.FieldPass
import TagLint.Proofs.Text.Lowered

/-! A rule that fails costs its own field the other findings, and no other field anything. -/
namespace TagLint
open Text

variable {r r' : Registry} {f : FieldDecl} {entries entries' before after : List TagEntry}
  {e : TagEntry} {failure : RuleFailure} {scan : FieldScan} {k : Text}

namespace FieldPass

/-- The rule for the key of the entry gives up on it. -/
def Fails (r : Registry) (e : TagEntry) (failure : RuleFailure) : Prop :=
  ∃ rule, r.rules.get? e.lowered = some rule ∧ rule.check e = .error failure

/-- No rule gives up on the entry. -/
def Passes (r : Registry) (e : TagEntry) : Prop := ∀ failure, ¬ Fails r e failure

/-- The first entry on which a rule gives up, and why. -/
def FirstFailure (r : Registry) (entries : List TagEntry) (failure : RuleFailure) : Prop :=
  ∃ before e after, entries = before ++ e :: after ∧ (∀ d ∈ before, Passes r d) ∧ Fails r e failure

theorem valueFindings_eq_error_iff : valueFindings r e = .error failure ↔ Fails r e failure := by
  simp only [valueFindings, Fails]
  cases r.rules.get? e.lowered with
  | none => simp
  | some rule => simp

theorem Passes.valueFindings (h : Passes r e) : ∃ fs, valueFindings r e = .ok fs := by
  cases hvalue : FieldPass.valueFindings r e with
  | ok fs => exact ⟨fs, rfl⟩
  | error failure => exact absurd (valueFindings_eq_error_iff.mp hvalue) (h failure)

/-- What the rule for an entry finds, unless it gives up. -/
def valuesOf (r : Registry) (e : TagEntry) : List Finding := (valueFindings r e).toOption.getD []

theorem valueFindings_of_passes (h : Passes r e) : valueFindings r e = .ok (valuesOf r e) := by
  obtain ⟨fs, hfs⟩ := h.valueFindings
  rw [valuesOf, hfs]
  rfl

theorem firstFailure_or_passes (r : Registry) (entries : List TagEntry) :
    (∃ failure, FirstFailure r entries failure) ∨ ∀ e ∈ entries, Passes r e := by
  induction entries with
  | nil => exact Or.inr (by simp)
  | cons e entries ih =>
    by_cases he : Passes r e
    · rcases ih with ⟨failure, before, d, after, rfl, hbefore, hd⟩ | hall
      · exact Or.inl ⟨failure, e :: before, d, after, rfl, List.forall_mem_cons.mpr ⟨he, hbefore⟩,
          hd⟩
      · exact Or.inr (List.forall_mem_cons.mpr ⟨he, hall⟩)
    · simp only [Passes, not_forall, not_not] at he
      obtain ⟨failure, he⟩ := he
      exact Or.inl ⟨failure, [], e, entries, rfl, by simp, he⟩

theorem ofEntry_of_passes (h : Passes r e) (scan : FieldScan) :
    ∃ found, ofEntry r scan e = .ok found := by
  obtain ⟨fs, hfs⟩ := h.valueFindings
  simp only [ofEntry, hfs]
  exact ⟨_, rfl⟩

theorem ofEntry_of_fails (h : Fails r e failure) (scan : FieldScan) :
    ofEntry r scan e = .error failure := by
  simp only [ofEntry, valueFindings_eq_error_iff.mpr h]
  rfl

/-- The pass gives up where the first rule does, whatever it has found before. -/
theorem ofEntries_of_fails (hbefore : ∀ d ∈ before, Passes r d) (he : Fails r e failure) :
    ofEntries r scan (before ++ e :: after) = .error failure := by
  induction before generalizing scan with
  | nil =>
    simp only [List.nil_append, ofEntries, ofEntry_of_fails he]
    rfl
  | cons d before ih =>
    obtain ⟨hd, hbefore⟩ := List.forall_mem_cons.mp hbefore
    obtain ⟨found, hfound⟩ := ofEntry_of_passes hd scan
    simp only [List.cons_append, ofEntries, hfound, ih hbefore]
    rfl

theorem FirstFailure.findings (h : FirstFailure r entries failure) :
    findings r entries = .error failure := by
  obtain ⟨before, e, after, rfl, hbefore, he⟩ := h
  exact ofEntries_of_fails hbefore he

theorem findings_of_passes (h : ∀ e ∈ entries, Passes r e) :
    findings r entries = .ok (byPosition (entryFindings r.vocabulary (valuesOf r)) entries
      ++ (Combination.findings (firsts entries)).map (anchor [])) :=
  findings_eq fun e he => valueFindings_of_passes (h e he)

/-! ## Two registries -/

/-- Rules that find the same give up on the same entries. -/
theorem passes_of_map_eq (hvalues : entries.map (valueFindings r) = entries'.map (valueFindings r'))
    (hall : ∀ e ∈ entries, Passes r e) : ∀ e ∈ entries', Passes r' e := by
  intro e' he' failure hfails
  have hmem : valueFindings r' e' ∈ entries.map (valueFindings r) :=
    hvalues ▸ List.mem_map_of_mem he'
  obtain ⟨e, he, hsame⟩ := List.mem_map.mp hmem
  exact hall e he failure
    (valueFindings_eq_error_iff.mp (hsame.trans (valueFindings_eq_error_iff.mpr hfails)))

theorem FirstFailure.of_map_eq (h : FirstFailure r entries failure)
    (hvalues : entries.map (valueFindings r) = entries'.map (valueFindings r')) :
    FirstFailure r' entries' failure := by
  obtain ⟨before, e, after, rfl, hbefore, he⟩ := h
  rw [List.map_append, List.map_cons] at hvalues
  obtain ⟨before', rest, rfl, hbefore', hrest⟩ := List.map_eq_append_iff.mp hvalues.symm
  obtain ⟨e', after', rfl, he', -⟩ := List.map_eq_cons_iff.mp hrest
  refine ⟨before', e', after', rfl, passes_of_map_eq hbefore'.symm hbefore, ?_⟩
  exact valueFindings_eq_error_iff.mp (he'.trans (valueFindings_eq_error_iff.mpr he))

/-- The registries have one vocabulary, and the same rule for every key but `k`. -/
structure DifferAt (k : Text) (r r' : Registry) : Prop where
  vocabulary : r.vocabulary = r'.vocabulary
  rules : ∀ key, lower key ≠ k → r.rules.get? key = r'.rules.get? key

theorem DifferAt.valueFindings (h : DifferAt k r r') (he : e.lowered ≠ k) :
    valueFindings r e = valueFindings r' e := by
  have hlower : lower e.lowered = e.lowered := lower_lower e.key
  have hrule : r.rules.get? e.lowered = r'.rules.get? e.lowered := by
    apply h.rules
    rw [hlower]
    exact he
  simp only [FieldPass.valueFindings, hrule]

theorem DifferAt.ofEntries (h : DifferAt k r r') (hk : ∀ e ∈ entries, e.lowered ≠ k) :
    ofEntries r scan entries = ofEntries r' scan entries := by
  induction entries generalizing scan with
  | nil => rfl
  | cons e entries ih =>
    obtain ⟨he, hk⟩ := List.forall_mem_cons.mp hk
    simp only [FieldPass.ofEntries, ofEntry, h.valueFindings he, h.vocabulary, ih hk]

end FieldPass

open FieldPass

/-! ## Fields and structs -/

/-- The single error of a field on which a rule has failed. -/
def failureError (s : StructDecl) (f : FieldDecl) (failure : RuleFailure) : Diagnostic :=
  ⟨s.name, f.name, f.tag, "Error parsing GORM tags: " ++ failure.message, .error, none⟩

/-- What a field may show: the first failure of a rule alone, or, when no rule fails, the complete
pass. -/
inductive FieldBlock (r : Registry) (s : StructDecl) (f : FieldDecl) : List Diagnostic → Prop
  | failed {failure : RuleFailure} (first : FirstFailure r (f.entries r.vocabulary) failure) :
      FieldBlock r s f [failureError s f failure]
  | complete {found : List Diagnostic} (passes : ∀ e ∈ f.entries r.vocabulary, Passes r e)
      (pass : FieldPass.diagnostics r s f (f.entries r.vocabulary) = .ok found) :
      FieldBlock r s f found

theorem fieldBlock_validateField (r : Registry) (s : StructDecl) (f : FieldDecl) :
    FieldBlock r s f (validateField r s f) := by
  rcases firstFailure_or_passes r (f.entries r.vocabulary) with ⟨failure, hfirst⟩ | hall
  · have hblock : validateField r s f = [failureError s f failure] := by
      simp only [validateField, hfirst.findings]
      rfl
    rw [hblock]
    exact .failed hfirst
  · refine .complete hall ?_
    simp only [FieldPass.diagnostics, validateField, findings_of_passes hall]
    rfl

/-- The diagnostics of a struct as a whole, from the entries of all its tagged fields. -/
def structWide (v : Vocabulary) (s : StructDecl) : List Diagnostic :=
  StructRule.findings s ((s.fields.filter FieldDecl.isTagged).map fun f => (f, f.entries v))

/-! ## The loop over the fields -/

/-- What the loop over the fields has found, and the fields it has handed on to the struct-wide
rules. -/
structure StructPass where
  found : List Diagnostic := []
  scanned : List ScannedField := []

namespace StructPass

/-- The field is handed on first; then its own pass may give up. -/
def tryField (r : Registry) (s : StructDecl) (f : FieldDecl) :
    ExceptT RuleFailure (StateM StructPass) Unit := do
  let entries := f.entries r.vocabulary
  modify fun p => { p with scanned := p.scanned ++ [(f, entries)] }
  match FieldPass.diagnostics r s f entries with
  | .ok found => modify fun p => { p with found := p.found ++ found }
  | .error failure => throw failure

def field (r : Registry) (s : StructDecl) (f : FieldDecl) : StateM StructPass Unit := do
  if f.isTagged then
    match ← (tryField r s f).run with
    | .ok () => pure ()
    | .error failure => modify fun p => { p with found := p.found ++ [failureError s f failure] }

def fields (r : Registry) (s : StructDecl) (fs : List FieldDecl) (p : StructPass) : StructPass :=
  fs.foldl (fun p f => ((field r s f).run p).2) p

/-- A struct without a tag is left alone. -/
def diagnostics (r : Registry) (s : StructDecl) : List Diagnostic :=
  if s.hasTags then
    let p := fields r s s.fields {}
    p.found ++ StructRule.findings s p.scanned
  else []

theorem run_field_of_tagged (h : f.isTagged) (r : Registry) (s : StructDecl) (p : StructPass) :
    (field r s f).run p
      = ((), ⟨p.found ++ validateField r s f, p.scanned ++ [(f, f.entries r.vocabulary)]⟩) := by
  cases hpass : findings r (f.entries r.vocabulary) with
  | ok found =>
    simp only [field, h, tryField, FieldPass.diagnostics, validateField, hpass]
    rfl
  | error failure =>
    simp only [field, h, tryField, FieldPass.diagnostics, validateField, hpass]
    rfl

theorem run_field_of_untagged (h : f.isTagged = false) (r : Registry) (s : StructDecl)
    (p : StructPass) :
    (field r s f).run p = ((), p) := by
  simp only [field, h]
  rfl

/-- Whatever fails, every tagged field adds its block and is handed on. -/
theorem fields_eq (r : Registry) (s : StructDecl) (fs : List FieldDecl) (p : StructPass) :
    fields r s fs p = ⟨p.found ++ (fs.filter FieldDecl.isTagged).flatMap (validateField r s),
      p.scanned ++ (fs.filter FieldDecl.isTagged).map fun f => (f, f.entries r.vocabulary)⟩ := by
  induction fs generalizing p with
  | nil => simp [fields]
  | cons f fs ih =>
    change fields r s fs ((field r s f).run p).2 = _
    cases hf : f.isTagged with
    | true => simp [run_field_of_tagged hf, ih, hf]
    | false => simp [run_field_of_untagged hf, ih, hf]

theorem diagnostics_eq (r : Registry) (s : StructDecl) : diagnostics r s = validateStruct r s := by
  by_cases htags : s.hasTags
  · simp only [diagnostics, htags, reduceIte, fields_eq, List.nil_append]
    rfl
  · have hnone : s.fields.filter FieldDecl.isTagged = [] := by
      simpa [List.filter_eq_nil_iff, StructDecl.hasTags] using htags
    simp only [diagnostics, htags, validateStruct, hnone]
    rfl

end StructPass

/-- A struct shows a block for each of its tagged fields, then the struct-wide diagnostics. A rule
that fails changes the block of its field alone, and so does a change of the rule for one key. -/
theorem validateStruct_blocks (r : Registry) (s : StructDecl) :
    validateStruct r s = StructPass.diagnostics r s
    ∧ validateStruct r s
      = (s.fields.filter FieldDecl.isTagged).flatMap (validateField r s)
        ++ structWide r.vocabulary s
    ∧ (∀ f ∈ s.fields.filter FieldDecl.isTagged, FieldBlock r s f (validateField r s f))
    ∧ ∀ r' k, DifferAt k r r' →
        structWide r.vocabulary s = structWide r'.vocabulary s
        ∧ ∀ f ∈ s.fields.filter FieldDecl.isTagged, (∀ e ∈ f.entries r.vocabulary, e.lowered ≠ k) →
            validateField r s f = validateField r' s f := by
  refine ⟨(StructPass.diagnostics_eq r s).symm, rfl, fun f _ => fieldBlock_validateField r s f, ?_⟩
  intro r' k hdiffer
  refine ⟨by rw [hdiffer.vocabulary], ?_⟩
  intro f _ hk
  simp only [validateField, findings, ← hdiffer.vocabulary, hdiffer.ofEntries hk]

/-- A registry with a rule that always fails. -/
def exploding : Registry :=
  { rules := ⟨[("explode".toList, ⟨.unnamed, fun _ => .error (.raised "boom")⟩)]⟩ }

/-- The rule fails on the first field, behind a finding of another rule. -/
def twoFields : StructDecl :=
  ⟨"A".toList, [⟨"Bad".toList, "string".toList, "gorm:\"column:n;size:x;explode\"".toList⟩,
    ⟨"Good".toList, "string".toList, "gorm:\"column:n;size:y\"".toList⟩]⟩

theorem differAt_exploding : DifferAt "explode".toList exploding {} := by
  refine ⟨rfl, ?_⟩
  intro key hkey
  have hadded : exploding.rules.added.find? (·.1 = lower key) = none := by
    rw [List.find?_eq_none]
    intro row hrow heq
    obtain rfl := List.mem_singleton.mp hrow
    exact hkey (of_decide_eq_true heq).symm
  simp only [RuleBook.get?, RuleBook.rules, List.find?_append, hadded, List.find?_nil]

theorem validateStruct_blocks_twoFields :
    DifferAt "explode".toList exploding {}
    ∧ (validateStruct exploding twoFields).map (fun d => (d.fieldName, d.message))
        = [("Bad".toList, ("Error parsing GORM tags: boom" : Text)),
          ("Good".toList, ("Invalid size value 'y'. Size must be a positive integer." : Text)),
          ("Good".toList, ("Duplicate column name 'n' already used by field 'Bad'. "
            ++ "Each column name must be unique within the struct." : String).toList)]
    ∧ ∀ f ∈ twoFields.fields.drop 1,
      validateField exploding twoFields f = validateField {} twoFields f := by
  obtain ⟨-, hblocks, -, htwo⟩ := validateStruct_blocks exploding twoFields
  refine ⟨differAt_exploding, ?_, ?_⟩
  · rw [hblocks]
    decide +kernel
  · obtain ⟨-, hsame⟩ := htwo {} _ differAt_exploding
    intro f hf
    obtain rfl : f = ⟨"Good".toList, "string".toList, "gorm:\"column:n;size:y\"".toList⟩ := by
      simpa [twoFields] using hf
    exact hsame _ (by decide +kernel) (by decide +kernel)

end TagLint
