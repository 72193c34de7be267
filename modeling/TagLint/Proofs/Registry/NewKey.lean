import TagLint.Proofs.Registry.Run
import TagLint.Proofs.Rule.Isolation
import TagLint.Proofs.Rule.Mentions
import TagLint.Proofs.Rule.Reorder

/-! A new key: the errors that it was not known go, or turn into warnings; all else that is reported
stays. -/
namespace TagLint
open Text FieldPass

variable {β γ : Type} {v v' : Vocabulary} {r r' : Registry} {s : StructDecl} {f : FieldDecl}
  {c : KeyClass} {entries entries' before before' : List TagEntry} {e e' : TagEntry} {key k : Text}
  {found found' : List Anchored}

/-! ## Remarks -/

/-- A diagnostic; the error on a key that is not known is told from all others. -/
inductive Remark where
  | unknownKey (s : StructDecl) (f : FieldDecl) (e : TagEntry)
  | other (d : Diagnostic)
deriving DecidableEq, Repr

namespace Remark

def diagnostic : Remark → Diagnostic
  | unknownKey s f e => onField s f (.error ("Unknown GORM tag '" ++ e.token
      ++ "'. Check GORM documentation for valid tags."), e.token)
  | other d => d

/-- The warning on a key that is not recommended, in place of the error that it is not known. -/
def warning : Remark → Diagnostic
  | unknownKey s f e => { (unknownKey s f e).diagnostic with
      severity := .warning
      message := "GORM tag '" ++ e.token
        ++ "' is deprecated or not recommended. Consider using alternative approaches." }
  | other d => d

/-- The error is on the key, in some casing. -/
def concerns (folded : Text) : Remark → Bool
  | unknownKey _ _ e => lower e.token = folded
  | other _ => false

/-- The entry whose key is not known. -/
def entry? : Remark → Option TagEntry
  | unknownKey _ _ e => some e
  | other _ => none

end Remark

def otherRemarks (s : StructDecl) (f : FieldDecl) (found : List Anchored) : List Remark :=
  found.map fun x => .other (onField s f x)

def keyRemarks (v : Vocabulary) (s : StructDecl) (f : FieldDecl) (e : TagEntry) : List Remark :=
  if v.classify e.key = .unknown then [.unknownKey s f e]
  else otherRemarks s f ((verdict (v.classify e.key) e).map (·, e.token))

def entryRemarks (r : Registry) (s : StructDecl) (f : FieldDecl) (before : List TagEntry)
    (e : TagEntry) : List Remark :=
  otherRemarks s f (repeatErrors before e) ++ keyRemarks r.vocabulary s f e
    ++ otherRemarks s f ((valuesOf r e).map (anchor e.token))
      ++ otherRemarks s f (pairErrors before e)

def fieldRemarks (r : Registry) (s : StructDecl) (f : FieldDecl) : List Remark :=
  match findings r (f.entries r.vocabulary) with
  | .error failure => [.other (failureError s f failure)]
  | .ok _ => byPosition (entryRemarks r s f) (f.entries r.vocabulary)
      ++ otherRemarks s f ((Combination.findings (firsts (f.entries r.vocabulary))).map (anchor []))

def structRemarks (r : Registry) (s : StructDecl) : List Remark :=
  (s.fields.filter FieldDecl.isTagged).flatMap (fieldRemarks r s)
    ++ (structWide r.vocabulary s).map .other

/-- The diagnostics of a text, as remarks. -/
def textRemarks (r : Registry) (t : Text) : List Remark := (structs t).flatMap (structRemarks r)

/-! ## Which remarks are on unknown keys -/

theorem filterMap_otherRemarks (s : StructDecl) (f : FieldDecl) (found : List Anchored) :
    (otherRemarks s f found).filterMap Remark.entry? = [] := by
  simp [otherRemarks, Remark.entry?]

theorem filterMap_keyRemarks (v : Vocabulary) (s : StructDecl) (f : FieldDecl) (e : TagEntry) :
    (keyRemarks v s f e).filterMap Remark.entry? = [e].filter (v.classify ·.key = .unknown) := by
  rw [keyRemarks]
  split
  · rename_i hunknown
    simp [hunknown, Remark.entry?]
  · rename_i hknown
    simp [hknown, filterMap_otherRemarks]

/-- Where no rule gives up, every entry with an unknown key is remarked upon, in its place. -/
theorem filterMap_fieldRemarks (r : Registry) (s : StructDecl) (f : FieldDecl) :
    (fieldRemarks r s f).filterMap Remark.entry? = match findings r (f.entries r.vocabulary) with
      | .error _ => []
      | .ok _ => (f.entries r.vocabulary).filter (r.vocabulary.classify ·.key = .unknown) := by
  rw [fieldRemarks]
  split
  · rfl
  · have hentry : (fun before e => (entryRemarks r s f before e).flatMap fun m => m.entry?.toList)
        = fun _ e => [e].filter (r.vocabulary.classify ·.key = .unknown) := by
      funext before e
      rw [← List.filterMap_eq_flatMap_toList]
      simp only [entryRemarks, List.filterMap_append, filterMap_otherRemarks, filterMap_keyRemarks,
        List.nil_append, List.append_nil]
    rw [List.filterMap_append, filterMap_otherRemarks, List.append_nil,
      List.filterMap_eq_flatMap_toList, byPosition_flatMap, hentry, byPosition_of_entry,
      ← List.filter_flatMap, List.flatMap_singleton']

/-! ## The entries of one segment under two vocabularies -/

/-- The entry is known by the same key as before, and shows it the same. -/
structure Reread (e e' : TagEntry) : Prop where
  alike : e.Alike .exact e'
  folded : foldKey e.key = lower e.token

theorem reread_ofSegment (hv : v.Sound) (hv' : v'.Sound) (segment : Text) :
    List.Forall₂ Reread (TagEntry.ofSegment v segment) (TagEntry.ofSegment v' segment) := by
  rw [TagEntry.ofSegment, TagEntry.ofSegment, List.forall₂_map_left_iff, List.forall₂_map_right_iff,
    List.forall₂_same]
  intro part hpart
  obtain ⟨hmem, hne⟩ := List.mem_filter.mp hpart
  obtain ⟨piece, -, rfl⟩ := List.mem_map.mp hmem
  obtain ⟨htoken, hlower, hfold⟩ := TagEntry.keys_ofPart hv (trim_trim piece) (by simpa using hne)
  obtain ⟨htoken', hlower', hfold'⟩ :=
    TagEntry.keys_ofPart hv' (trim_trim piece) (by simpa using hne)
  refine ⟨⟨hfold.trans hfold'.symm, hlower.trans hlower'.symm, rfl, htoken.trans htoken'.symm, ?_,
    ?_⟩, ?_⟩
  · rw [hlower, htoken]
  · rw [hlower', htoken']
  · rw [hfold, htoken]

/-! ## What a registry says in place of the remarks of another -/

/-- The registries differ in their vocabularies alone, and what the second one says of a key that
the first one does not know is told of the remark on it. -/
structure Retold (r r' : Registry) (told : Remark → List Diagnostic) : Prop where
  sound : r.vocabulary.Sound
  sound' : r'.vocabulary.Sound
  rules : r.rules = r'.rules
  reads : ∀ key rule, r.rules.get? key = some rule → ValueRule.ReadsValue rule.check
  other : ∀ d, told (.other d) = [d]
  known : ∀ key, r.vocabulary.classify key ≠ .unknown →
    r'.vocabulary.classify key = r.vocabulary.classify key
  unknownKey : ∀ s f e, r.vocabulary.classify e.key = .unknown → foldKey e.key = lower e.token →
    told (.unknownKey s f e) = ((verdict (r'.vocabulary.classify e.key) e).map (·, e.token)).map
      (onField s f)

namespace Retold
variable {told : Remark → List Diagnostic}

/-- Findings alike make the same diagnostics. -/
theorem map_onField_of_alike (h : List.Forall₂ (Anchored.Alike .exact) found found')
    (s : StructDecl) (f : FieldDecl) :
    found.map (onField s f) = found'.map (onField s f) := by
  have hmap : List.Forall₂ Eq (found.map (onField s f)) (found'.map (onField s f)) := by
    refine List.rel_map ?_ h
    intro x y hxy
    have hmessage : x.1.message = y.1.message := hxy.message
    have hkey : x.2 = y.2 := hxy.key
    simp only [onField, Finding.on, hxy.severity, hmessage, hkey]
  rwa [List.forall₂_eq_eq_eq] at hmap

theorem flatMap_otherRemarks (h : Retold r r' told) (s : StructDecl) (f : FieldDecl)
    (found : List Anchored) :
    (otherRemarks s f found).flatMap told = found.map (onField s f) := by
  rw [otherRemarks, List.flatMap_map, List.map_eq_flatMap]
  exact List.flatMap_congr fun x _ => h.other _

theorem flatMap_keyRemarks (h : Retold r r' told) (he : foldKey e.key = lower e.token) :
    (keyRemarks r.vocabulary s f e).flatMap told
      = ((verdict (r'.vocabulary.classify e.key) e).map (·, e.token)).map (onField s f) := by
  rw [keyRemarks]
  split
  · rename_i hunknown
    rw [List.flatMap_singleton]
    exact h.unknownKey s f e hunknown he
  · rename_i hknown
    rw [h.flatMap_otherRemarks, h.known e.key hknown]

theorem valueFindings_eq (h : Retold r r' told) (he : Reread e e') :
    valueFindings r e = valueFindings r' e' :=
  valueFindings_congr h.rules h.reads he.alike.lowered he.alike.value

theorem flatMap_entryRemarks (h : Retold r r' told) (hbefore : List.Forall₂ Reread before before')
    (he : Reread e e') :
    (entryRemarks r s f before e).flatMap told
      = (entryFindings r'.vocabulary (valuesOf r') before' e').map (onField s f) := by
  have hbefore' : List.Forall₂ (TagEntry.Alike .exact) before before' :=
    hbefore.imp fun _ _ hd => hd.alike
  have htoken : e.token = e'.token := he.alike.token
  have hrepeats := map_onField_of_alike (repeatErrors_alike hbefore' he.alike) s f
  have hverdict := map_onField_of_alike (verdict_alike he.alike (r'.vocabulary.classify e.key)) s f
  have hvalues : (valuesOf r e).map (anchor e.token) = (valuesOf r' e').map (anchor e'.token) := by
    rw [valuesOf, valuesOf, h.valueFindings_eq he, htoken]
  have hpairs := map_onField_of_alike (pairErrors_alike hbefore' he.alike) s f
  rw [entryRemarks, entryFindings, ← classify_alike _ he.alike]
  simp only [List.flatMap_append, List.map_append, h.flatMap_otherRemarks,
    h.flatMap_keyRemarks he.folded, hrepeats, hverdict, hvalues, hpairs]

/-- Every entry is told in its place. -/
theorem flatMap_byPosition (h : Retold r r' told)
    (hentries : List.Forall₂ Reread entries entries') :
    (byPosition (entryRemarks r s f) entries).flatMap told
      = (byPosition (entryFindings r'.vocabulary (valuesOf r')) entries').map (onField s f) := by
  have htold : List.Forall₂ Eq
      (byPosition (fun before e => (entryRemarks r s f before e).flatMap told) entries)
      (byPosition (fun before e =>
        (entryFindings r'.vocabulary (valuesOf r') before e).map (onField s f)) entries') := by
    refine rel_byPosition hentries ?_
    intro before before' e e' hbefore he
    rw [h.flatMap_entryRemarks hbefore he, List.forall₂_eq_eq_eq]
  rw [List.forall₂_eq_eq_eq] at htold
  rw [byPosition_flatMap, htold, List.map_eq_flatMap, byPosition_flatMap]
  simp only [List.map_eq_flatMap]

theorem flatMap_fieldRemarks (h : Retold r r' told) (s : StructDecl) (f : FieldDecl) :
    (fieldRemarks r s f).flatMap told = validateField r' s f := by
  have hentries : List.Forall₂ Reread (f.entries r.vocabulary) (f.entries r'.vocabulary) :=
    reread_ofSegment h.sound h.sound' f.tag
  have hvalues : (f.entries r.vocabulary).map (valueFindings r)
      = (f.entries r'.vocabulary).map (valueFindings r') := by
    rw [← List.forall₂_eq_eq_eq]
    exact List.rel_map (fun _ _ he => h.valueFindings_eq he) hentries
  rcases firstFailure_or_passes r (f.entries r.vocabulary) with ⟨failure, hfirst⟩ | hall
  · simp only [fieldRemarks, validateField, hfirst.findings, (hfirst.of_map_eq hvalues).findings,
      List.flatMap_singleton, h.other]
    rfl
  · have hall' := passes_of_map_eq hvalues hall
    have hkeys := Combination.findings_alike (firsts_alike (hentries.imp fun _ _ he => he.alike))
    simp only [fieldRemarks, validateField, findings_of_passes hall, findings_of_passes hall',
      List.flatMap_append, h.flatMap_otherRemarks, h.flatMap_byPosition hentries,
      map_onField_of_alike hkeys]
    rw [← List.map_append]
    rfl

theorem structWide_eq (h : Retold r r' told) (s : StructDecl) :
    structWide r.vocabulary s = structWide r'.vocabulary s := by
  rw [← List.forall₂_eq_eq_eq]
  refine StructRule.findings_related (List.rel_map ?_ (List.forall₂_same.mpr fun _ _ => rfl))
  rintro f _ rfl
  refine (reread_ofSegment h.sound h.sound' f.tag).imp ?_
  intro e e' he
  have htoken : e.token = e'.token := he.alike.token
  refine ⟨he.alike.lowered, he.alike.value, rfl, fun finding => ?_⟩
  rw [htoken]

theorem flatMap_structRemarks (h : Retold r r' told) (s : StructDecl) :
    (structRemarks r s).flatMap told = validateStruct r' s := by
  have hwide : ((structWide r.vocabulary s).map Remark.other).flatMap told
      = structWide r'.vocabulary s := by
    rw [List.flatMap_map, ← h.structWide_eq]
    simp only [h.other]
    exact List.flatMap_singleton' _
  rw [structRemarks, List.flatMap_append, List.flatMap_assoc, hwide]
  simp only [h.flatMap_fieldRemarks]
  rfl

/-- What the second registry says of a text is told of the remarks of the first. -/
theorem flatMap_textRemarks (h : Retold r r' told) (t : Text) :
    (textRemarks r t).flatMap told = validateText r' t := by
  rw [textRemarks, List.flatMap_assoc]
  simp only [h.flatMap_structRemarks]
  rfl

end Retold

/-! ## Adding a key -/

namespace Vocabulary

theorem fresh_of_row?_eq_none (h : v.row? k = none) :
    isBuiltin (foldKey k) = false ∧ v.added? (foldKey k) = none := by
  rw [row?, rows, List.find?_append, Option.or_eq_none_iff] at h
  refine ⟨?_, h.2⟩
  simpa [isBuiltin] using h.1

theorem classify_of_row?_eq_none (h : v.row? k = none) (hkey : foldKey key = foldKey k) :
    v.classify key = .unknown := by
  rw [classify, row?_congr hkey, h]
  rfl

/-- A new row decides on its own key alone. -/
theorem classify_put (h : v.row? k = none) (c : KeyClass) (key : Text) :
    classify ⟨put ⟨foldKey k, trim k, c⟩ v.added⟩ key = if foldKey key = foldKey k then c
      else v.classify key := by
  obtain ⟨hfresh, -⟩ := fresh_of_row?_eq_none h
  split
  · rename_i hkey
    exact Holds.classify ⟨hfresh, _, find?_put_self ⟨foldKey k, trim k, c⟩ v.added, rfl⟩ hkey
  · rename_i hkey
    have hother : (put ⟨foldKey k, trim k, c⟩ v.added).find? (·.folded = foldKey key)
        = v.added.find? (·.folded = foldKey key) := find?_put_of_ne (Ne.symm hkey) v.added
    rw [classify, classify, row?, row?, rows, rows, List.find?_append, List.find?_append, hother]

end Vocabulary

/-- What becomes of a remark when the key `folded` gets the class `c`. -/
def Remark.revised (c : KeyClass) (folded : Text) (m : Remark) : List Diagnostic :=
  if m.concerns folded then
    if c = .recommended then [] else [m.warning]
  else [m.diagnostic]

theorem flatMap_revised_recommended (folded : Text) (ms : List Remark) :
    ms.flatMap (Remark.revised .recommended folded)
      = (ms.filter (!·.concerns folded)).map Remark.diagnostic := by
  have hgone : ∀ m : Remark, (!m.concerns folded) = false → m.revised .recommended folded = [] := by
    intro m hm
    have hconcerns : m.concerns folded = true := by simpa using hm
    simp only [Remark.revised, hconcerns, reduceIte]
  rw [← StructRule.flatMap_filter_of_nil hgone, List.map_eq_flatMap]
  refine List.flatMap_congr fun m hm => ?_
  have hother : m.concerns folded = false := by simpa using (List.mem_filter.mp hm).2
  simp [Remark.revised, hother]

theorem flatMap_revised_of_ne (hc : c ≠ .recommended) (folded : Text) (ms : List Remark) :
    ms.flatMap (Remark.revised c folded)
      = ms.map fun m => if m.concerns folded then m.warning else m.diagnostic := by
  rw [List.map_eq_flatMap]
  refine List.flatMap_congr fun m _ => ?_
  simp only [Remark.revised, hc, reduceIte]
  split <;> rfl

namespace Retold

/-- A registry says of its own remarks what they are made of. -/
theorem refl (hsound : r.vocabulary.Sound)
    (hreads : ∀ key rule, r.rules.get? key = some rule → ValueRule.ReadsValue rule.check) :
    Retold r r fun m => [m.diagnostic] where
  sound := hsound
  sound' := hsound
  rules := rfl
  reads := hreads
  other _ := rfl
  known _ _ := rfl
  unknownKey s f e hunknown _ := by
    rw [hunknown]
    rfl

theorem addKey (hsound : r.vocabulary.Sound)
    (hreads : ∀ key rule, r.rules.get? key = some rule → ValueRule.ReadsValue rule.check)
    (hnew : r.vocabulary.row? k = none) (hadd : r.vocabulary.addKey k (.known c) = .ok v') :
    Retold r { r with vocabulary := v' } (Remark.revised c (foldKey k)) := by
  have happly : r.vocabulary.apply (.add k (.known c)) = .ok v' := hadd
  have hsound' : v'.Sound := hsound.apply happly
  obtain ⟨-, -, c', hgiven, hc, -, rfl⟩ := Vocabulary.addKey_eq_ok_iff.mp hadd
  obtain rfl := ClassGiven.known.inj hgiven
  refine ⟨hsound, hsound', rfl, hreads, fun _ => rfl, ?_, ?_⟩
  · intro key hknown
    rw [Vocabulary.classify_put hnew, if_neg]
    exact fun hkey => hknown (Vocabulary.classify_of_row?_eq_none hnew hkey)
  · intro s f e hunknown he
    rw [Vocabulary.classify_put hnew, hunknown, he]
    by_cases hkey : lower e.token = foldKey k
    · simp only [Remark.revised, Remark.concerns, hkey, decide_true, reduceIte]
      cases c with
      | unknown => exact absurd rfl hc
      | recommended => rfl
      | caution => rfl
      | deprecated => rfl
    · simp only [Remark.revised, Remark.concerns, hkey, decide_false, reduceIte]
      rfl

end Retold

/-- Adding a key changes what is said of that key alone: of the remarks on a text, the errors that
the key is not known go when it is recommended, and otherwise turn into warnings; the other
diagnostics stay, in their order. -/
theorem validateText_addKey {calls : List RegistryCall} (hr : r = ({} : Registry).after calls)
    (hreads : ∀ key rule, r.rules.get? key = some rule → ValueRule.ReadsValue rule.check)
    (hblank : trim k ≠ [])
    (hnew : r.vocabulary.row? k = none) (hc : c ≠ .unknown) (t : Text) :
    ∃ r', r.apply (.key (.add k (.known c))) = .ok r' ∧
      (textRemarks r t).map Remark.diagnostic = validateText r t ∧
      (∀ s f, (fieldRemarks r s f).filterMap Remark.entry?
        = match findings r (f.entries r.vocabulary) with
        | .error _ => []
        | .ok _ => (f.entries r.vocabulary).filter (r.vocabulary.classify ·.key = .unknown)) ∧
      (c = .recommended → validateText r' t
        = ((textRemarks r t).filter (!·.concerns (foldKey k))).map Remark.diagnostic) ∧
      (c ≠ .recommended → validateText r' t
        = (textRemarks r t).map fun m =>
          if m.concerns (foldKey k) then m.warning else m.diagnostic) := by
  have hsound : r.vocabulary.Sound := by
    rw [hr, Registry.vocabulary_after]
    exact Vocabulary.sound_empty.after _
  obtain ⟨hfresh, hnone⟩ := Vocabulary.fresh_of_row?_eq_none hnew
  obtain ⟨v', hadd⟩ : ∃ v', r.vocabulary.addKey k (.known c) = .ok v' := by
    rw [Vocabulary.addKey_known hblank hfresh hc, hnone]
    exact ⟨_, rfl⟩
  have hsame := (Retold.refl hsound hreads).flatMap_textRemarks t
  have hrevised := (Retold.addKey hsound hreads hnew hadd).flatMap_textRemarks t
  refine ⟨{ r with vocabulary := v' }, ?_, ?_, filterMap_fieldRemarks r, ?_, ?_⟩
  · simp only [Registry.apply, Vocabulary.apply, hadd]
  · rw [List.map_eq_flatMap, hsame]
  · rintro rfl
    rw [← hrevised, flatMap_revised_recommended]
  · intro hother
    rw [← hrevised, flatMap_revised_of_ne hother]

/-- A rule that gives up on one value and repeats every other one. -/
def repeating : ValueRule :=
  ⟨.unnamed, fun e => if e.value = "boom" then .error (.raised "boom") else .ok [.warning e.value]⟩

def ownedRules : Registry := { rules := ⟨[("owner", repeating)]⟩ }

/-- A key that is not known, another one, and a field on which the rule for the first one gives
up. -/
def ownedFields : Text :=
  "type A struct \x7b\n\tN int `gorm:\"oWner:a;foo\"`\n\tM int `gorm:\"OWNER:boom\"`\n\x7d"

theorem validateText_addKey_owner :
    ownedRules.vocabulary.row? " Owner" = none ∧
    (validateText ownedRules ownedFields).map (fun d => (d.severity, d.message))
      = ([(.error, "Unknown GORM tag 'oWner'. Check GORM documentation for valid tags."),
        (.warning, "a"),
        (.error, "Unknown GORM tag 'foo'. Check GORM documentation for valid tags."),
        (.error, "Error parsing GORM tags: boom")] : List (Severity × Text)) ∧
    (∃ r', ownedRules.apply (.key (.add " Owner" (.known .recommended))) = .ok r' ∧
      (validateText r' ownedFields).map (fun d => (d.severity, d.message))
        = ([(.warning, "a"),
          (.error, "Unknown GORM tag 'foo'. Check GORM documentation for valid tags."),
          (.error, "Error parsing GORM tags: boom")] : List (Severity × Text))) ∧
    ∃ r', ownedRules.apply (.key (.add " Owner" (.known .caution))) = .ok r' ∧
      (validateText r' ownedFields).map (fun d => (d.severity, d.key))
        = ([(.warning, some "oWner"), (.warning, some "oWner"), (.error, some "foo"),
          (.error, none)] : List (Severity × Option Text)) := by
  have hrule : ({} : RuleBook).addRule "owner" (some repeating) = .ok ownedRules.rules := by
    have hfold : foldKey "owner" = "owner".toList := by decide +kernel
    refine RuleBook.addRule_eq_ok_iff.mpr ⟨by decide +kernel, by decide +kernel, _, rfl,
      Or.inl ⟨rfl, ?_⟩⟩
    rw [hfold]
    rfl
  have hreached : ownedRules = ({} : Registry).after [.rule (.add "owner" (some repeating))] := by
    simp only [Registry.after, List.foldl_cons, List.foldl_nil, Registry.step_rule, RuleBook.step,
      RuleBook.apply, hrule]
    rfl
  have hreads : ∀ key rule, ownedRules.rules.get? key = some rule →
      ValueRule.ReadsValue rule.check := by
    refine ValueRule.readsValue_of_get? ?_
    intro p hp a b hvalue
    obtain rfl := List.mem_singleton.mp hp
    simp only [repeating, hvalue]
  have hblank : trim " Owner" ≠ [] := by decide +kernel
  have hnew : ownedRules.vocabulary.row? " Owner" = none := by decide +kernel
  obtain ⟨r', hadded, hbefore, -, hgone, -⟩ :=
    validateText_addKey hreached hreads hblank hnew (c := .recommended) (by decide) ownedFields
  obtain ⟨r'', hadded', -, -, -, hwarned⟩ :=
    validateText_addKey hreached hreads hblank hnew (c := .caution) (by decide) ownedFields
  refine ⟨hnew, ?_, ⟨r', hadded, ?_⟩, r'', hadded', ?_⟩
  · rw [← hbefore]
    decide +kernel
  · rw [hgone rfl]
    decide +kernel
  · rw [hwarned (by decide)]
    decide +kernel

end TagLint
