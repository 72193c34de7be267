import Mathlib.Data.List.Forall2
import TagLint.Proofs.Registry.Vocabulary
import TagLint.Proofs.Rule.FieldPass
import TagLint.Proofs.Rule.Value
import TagLint.Proofs.Text.Case

/-! The rules do not look into how a key is written: they show it, and hand it on as the key to
highlight. Entries that differ in nothing else are told alike. -/
namespace TagLint
open Text

variable {α β γ δ : Type} {as before : List TagEntry} {bs before' : List TagEntry} {L : Likeness}
  {e e' : TagEntry} {f g : Finding} {a b c d key : Text} {scan scan' : FieldScan}
  {v v' : Vocabulary}

/-! ## Lists that go in step -/

/-- A search ends at the same place in both lists, or in neither. -/
theorem find?_cases {R : α → β → Prop} {p : α → Bool} {q : β → Bool} {xs : List α} {ys : List β}
    (hp : ∀ x y, R x y → p x = q y) (h : List.Forall₂ R xs ys) :
    (xs.find? p = none ∧ ys.find? q = none) ∨ ∃ x y, xs.find? p = some x ∧ ys.find? q = some y ∧
    R x y := by
  induction h with
  | nil => exact Or.inl ⟨rfl, rfl⟩
  | @cons x y _ _ hxy _ ih =>
    rw [List.find?_cons, List.find?_cons, hp x y hxy]
    split
    · exact Or.inr ⟨x, y, rfl, rfl, hxy⟩
    · exact ih

/-- What is found position by position goes in step where the entries do. -/
theorem rel_byPosition {R : TagEntry → TagEntry → Prop} {S : γ → δ → Prop}
    {found : List TagEntry → TagEntry → List γ}
    {found' : List TagEntry → TagEntry → List δ} (h : List.Forall₂ R as bs)
    (hfound : ∀ before before' e e', List.Forall₂ R before before' → R e e' →
      List.Forall₂ S (found before e) (found' before' e')) :
    List.Forall₂ S (byPosition found as) (byPosition found' bs) := by
  refine List.rel_flatten (List.forall₂_of_length_eq_of_get (by simp [h.length_eq]) ?_)
  intro i hi hi'
  simp only [List.get_eq_getElem, List.getElem_mapIdx]
  exact hfound _ _ _ _ (List.forall₂_take i h) (h.get _ _)

/-! ## What is alike -/

/-- Which keys count as alike, and which messages: those that are made in one way of keys alike. -/
structure Likeness where
  key : Text → Text → Prop
  message : Text → Text → Prop
  empty : ∀ {a b}, key a b → (a = [] ↔ b = [])
  made : ∀ (write : List Text → Text) {as bs}, List.Forall₂ key as bs →
    message (write as) (write bs)

namespace Likeness

theorem made_of_one (L : Likeness) (write : Text → Text) (h : L.key a b) :
    L.message (write a) (write b) :=
  L.made (fun keys => write (keys.headD [])) (.cons h .nil)

theorem made_of_two (L : Likeness) (write : Text → Text → Text) (h : L.key a b) (h' : L.key c d) :
    L.message (write a c) (write b d) :=
  L.made (fun keys => write (keys.headD []) (keys.tail.headD [])) (.cons h (.cons h' .nil))

theorem message_refl (L : Likeness) (a : Text) : L.message a a := L.made (fun _ => a) .nil

/-- Nothing but itself is like a key. -/
def exact : Likeness where
  key := Eq
  message := Eq
  empty := fun h => h ▸ .rfl
  made := fun write _ _ h => by rw [List.forall₂_eq_eq_eq] at h; rw [h]

end Likeness

/-- The entries are known by one key and have one value. -/
structure TagEntry.Alike (L : Likeness) (a b : TagEntry) : Prop where
  folded : foldKey a.key = foldKey b.key
  lowered : a.lowered = b.lowered
  value : a.value = b.value
  token : L.key a.token b.token
  left : a.lowered = lower a.token
  right : b.lowered = lower b.token

structure Finding.Alike (L : Likeness) (f g : Finding) : Prop where
  severity : f.severity = g.severity
  message : L.message f.message g.message
  key : Option.Rel L.key f.key g.key

structure Anchored.Alike (L : Likeness) (x y : Anchored) : Prop where
  severity : x.1.severity = y.1.severity
  message : L.message x.1.message y.1.message
  key : L.key x.2 y.2

namespace FieldPass

theorem alike_anchor (h : f.Alike L g) (hfallback : L.key a b) :
    Anchored.Alike L (anchor a f) (anchor b g) := by
  obtain ⟨severity, message, k⟩ := f
  obtain ⟨severity', message', k'⟩ := g
  cases h.key with
  | none => exact ⟨h.severity, h.message, hfallback⟩
  | @some k k' hk =>
    refine ⟨h.severity, h.message, ?_⟩
    simp only [anchor, L.empty hk]
    split
    · exact hfallback
    · exact hk

/-- A finding with a key of its own is shown there. -/
theorem anchor_some (severity : Severity) (message k : Text) :
    anchor [] ⟨severity, message, some k⟩ = (⟨severity, message, some k⟩, k) := by
  simp only [anchor]
  split <;> simp_all

/-! ## Keys that occur, and where they come first -/

theorem lowered_alike (h : List.Forall₂ (TagEntry.Alike L) as bs) :
    as.map TagEntry.lowered = bs.map TagEntry.lowered := by
  induction h with
  | nil => rfl
  | cons he _ ih => rw [List.map_cons, List.map_cons, he.lowered, ih]

theorem occurs_alike (h : List.Forall₂ (TagEntry.Alike L) as bs) (key : Text) :
    Occurs as key ↔ Occurs bs key := by
  rw [occurs_iff_mem, occurs_iff_mem, lowered_alike h]

theorem firsts_alike (h : List.Forall₂ (TagEntry.Alike L) as bs) :
    List.Forall₂ (TagEntry.Alike L) (firsts as) (firsts bs) := by
  refine rel_byPosition h ?_
  intro before before' e e' hbefore he
  simp only [← he.lowered, occurs_alike hbefore]
  split
  · exact .nil
  · exact .cons he .nil

end FieldPass

namespace FieldScan

theorem find?_alike (h : List.Forall₂ (TagEntry.Alike L) scan scan') (key : Text) :
    (scan.find? key = none ∧ scan'.find? key = none) ∨
      ∃ e e', scan.find? key = some e ∧ scan'.find? key = some e' ∧ e.Alike L e' := by
  refine find?_cases ?_ h
  intro e e' he
  rw [he.lowered]

theorem has_alike (h : List.Forall₂ (TagEntry.Alike L) scan scan') : scan.has = scan'.has := by
  funext key
  rcases find?_alike h key with ⟨hleft, hright⟩ | ⟨e, e', hleft, hright, -⟩
    <;> simp [has, hleft, hright]

/-- A key that occurs is written alike where it comes first. -/
theorem exists_alike (h : List.Forall₂ (TagEntry.Alike L) scan scan') (hkey : scan.has key) :
    ∃ e e', TagEntry.Alike L e e' ∧ e.lowered = key ∧ scan.token key = e.token ∧
    scan'.token key = e'.token := by
  rcases find?_alike h key with ⟨hnone, -⟩ | ⟨e, e', hleft, hright, he⟩
  · simp [has, hnone] at hkey
  · exact ⟨e, e', he, by simpa using List.find?_some hleft, by simp [token, hleft],
      by simp [token, hright]⟩

theorem token_alike (h : List.Forall₂ (TagEntry.Alike L) scan scan') (hkey : scan.has key) :
    L.key (scan.token key) (scan'.token key) := by
  obtain ⟨e, e', he, -, hleft, hright⟩ := exists_alike h hkey
  rw [hleft, hright]
  exact he.token

/-- A key of arrows is written as it is known. -/
theorem arrows_alike (h : List.Forall₂ (TagEntry.Alike L) scan scan') (hkey : scan.has key)
    (harrows : ∀ c ∈ key, c ∈ arrows) : L.key key key := by
  obtain ⟨e, e', he, rfl, -⟩ := exists_alike h hkey
  have hleft : e.token = e.lowered := eq_of_lower_eq harrows he.left.symm
  have hright : e'.token = e.lowered := eq_of_lower_eq harrows (he.lowered.trans he.right).symm
  have htoken := he.token
  rwa [hleft, hright] at htoken

end FieldScan

/-! ## The rules on the keys of a field -/

namespace Combination
open FieldPass

theorem forall₂_guarded {guard guard' : Bool} {severity : Severity} (hguard : guard = guard')
    (hmessage : guard → L.message a b) (hkey : guard → L.key c d) :
    List.Forall₂ (Anchored.Alike L)
      ((if guard then [⟨severity, a, some c⟩] else []).map (anchor []))
      ((if guard' then [⟨severity, b, some d⟩] else []).map (anchor [])) := by
  subst hguard
  cases guard with
  | false => exact .nil
  | true =>
    simp only [reduceIte, List.map_cons, List.map_nil, anchor_some]
    exact .cons ⟨rfl, hmessage rfl, hkey rfl⟩ .nil

theorem arrows_of_mem_permissions : ∀ p ∈ permissions, ∀ c ∈ p, c ∈ arrows := by decide

theorem conflictingPermissions_alike (h : List.Forall₂ (TagEntry.Alike L) scan scan') :
    List.Forall₂ (Anchored.Alike L) ((conflictingPermissions scan).map (anchor []))
      ((conflictingPermissions scan').map (anchor [])) := by
  simp only [conflictingPermissions, ← FieldScan.has_alike h]
  split
  · rename_i htwo
    have hne : permissions.filter scan.has ≠ [] := by
      intro hnil
      simp [hnil] at htwo
    obtain ⟨hmem, hhas⟩ := List.mem_filter.mp (List.getLast_mem hne)
    have hkey := FieldScan.arrows_alike h hhas (arrows_of_mem_permissions _ hmem)
    simp only [List.map_cons, List.map_nil, List.getLast?_eq_some_getLast hne, Finding.error,
      anchor_some]
    exact .cons ⟨rfl, L.message_refl _, hkey⟩ .nil
  · exact .nil

theorem ignoredWithOtherKeys_alike (h : List.Forall₂ (TagEntry.Alike L) scan scan') :
    List.Forall₂ (Anchored.Alike L) ((ignoredWithOtherKeys scan).map (anchor []))
      ((ignoredWithOtherKeys scan').map (anchor [])) := by
  have htokens : List.Forall₂ L.key (scan.map TagEntry.token) (scan'.map TagEntry.token) :=
    List.rel_map (fun _ _ he => he.token) h
  refine forall₂_guarded (by rw [FieldScan.has_alike h, h.length_eq]) ?_ ?_
  · intro _
    exact L.made (fun keys => (ignoredError (keys.filter (· ≠ ignore))).message) htokens
  · intro hboth
    exact FieldScan.arrows_alike h (Bool.and_eq_true_iff.mp hboth).1 (by decide)

theorem primaryKeyNotNull_alike (h : List.Forall₂ (TagEntry.Alike L) scan scan') :
    List.Forall₂ (Anchored.Alike L) ((primaryKeyNotNull scan).map (anchor []))
      ((primaryKeyNotNull scan').map (anchor [])) := by
  refine forall₂_guarded (by rw [FieldScan.has_alike h]) ?_ ?_
  · intro hboth
    exact L.made_of_one (fun key =>
      "'" ++ key ++ "' automatically implies 'not null'. Remove 'not null' tag.")
      (FieldScan.token_alike h (Bool.and_eq_true_iff.mp hboth).1)
  · intro hboth
    exact FieldScan.token_alike h (Bool.and_eq_true_iff.mp hboth).2

theorem rule_alike (h : List.Forall₂ (TagEntry.Alike L) scan scan') : ∀ rule ∈ rules,
    List.Forall₂ (Anchored.Alike L) ((rule scan).map (anchor []))
      ((rule scan').map (anchor [])) := by
  intro rule hrule
  have hhas := FieldScan.has_alike h
  simp only [rules, List.mem_cons, List.not_mem_nil, or_false] at hrule
  rcases hrule with rfl | rfl | rfl | rfl | rfl | rfl | rfl | rfl
  · exact primaryKeyNotNull_alike h
  · exact ignoredWithOtherKeys_alike h
  · exact conflictingPermissions_alike h
  · exact forall₂_guarded (by rw [hhas]) (fun _ => L.message_refl _)
      fun hboth => FieldScan.token_alike h (Bool.and_eq_true_iff.mp hboth).1
  · exact forall₂_guarded (by rw [hhas]) (fun _ => L.message_refl _)
      fun hboth => FieldScan.token_alike h (Bool.and_eq_true_iff.mp hboth).1
  · exact forall₂_guarded (by rw [hhas]) (fun _ => L.message_refl _)
      fun hboth => FieldScan.token_alike h (Bool.and_eq_true_iff.mp hboth).1
  · exact forall₂_guarded (by rw [hhas]) (fun _ => L.message_refl _)
      fun hboth => FieldScan.token_alike h (Bool.and_eq_true_iff.mp hboth).2
  · exact forall₂_guarded (by rw [hhas]) (fun _ => L.message_refl _)
      fun hboth => FieldScan.token_alike h (Bool.and_eq_true_iff.mp hboth).2

theorem findings_alike (h : List.Forall₂ (TagEntry.Alike L) scan scan') :
    List.Forall₂ (Anchored.Alike L) ((findings scan).map (anchor []))
      ((findings scan').map (anchor [])) := by
  simp only [findings, List.map_flatMap]
  have hrules : List.Forall₂ (fun rule rule' => rule = rule' ∧ rule ∈ rules) rules rules :=
    List.forall₂_same.mpr fun rule hrule => ⟨rfl, hrule⟩
  refine List.rel_flatMap hrules ?_
  rintro rule _ ⟨rfl, hrule⟩
  exact rule_alike h rule hrule

end Combination

/-! ## The pass over a field -/

namespace FieldPass

theorem repeatErrors_alike (hbefore : List.Forall₂ (TagEntry.Alike L) before before')
    (he : e.Alike L e') :
    List.Forall₂ (Anchored.Alike L) (repeatErrors before e) (repeatErrors before' e') := by
  simp only [repeatErrors, ← he.lowered, occurs_alike hbefore]
  split
  · exact .cons
      ⟨rfl, L.made_of_one (fun key => "Duplicate GORM tag key '" ++ key ++ "' in field") he.token,
        he.token⟩ .nil
  · exact .nil

theorem conflict_alike (h : L.key a b) (h' : L.key c d) :
    Anchored.Alike L (conflict a c) (conflict b d) :=
  ⟨rfl, L.made_of_two (fun key rival =>
    "'" ++ key ++ "' and '" ++ rival ++ "' cannot be used together") h h', h⟩

theorem pairErrors_alike (hbefore : List.Forall₂ (TagEntry.Alike L) before before')
    (he : e.Alike L e') :
    List.Forall₂ (Anchored.Alike L) (pairErrors before e) (pairErrors before' e') := by
  have hfind :=
    find?_cases (p := fun d => Rivals d.lowered e.lowered) (q := fun d =>
      Rivals d.lowered e.lowered)
    (fun _ _ hd => by rw [hd.lowered]) hbefore
  simp only [pairErrors, ← he.lowered, occurs_alike hbefore]
  split
  · exact .nil
  · rcases hfind with ⟨hleft, hright⟩ | ⟨d, d', hleft, hright, hd⟩
    · rw [hleft, hright]
      exact .nil
    · rw [hleft, hright]
      exact .cons (conflict_alike hd.token he.token) (.cons (conflict_alike he.token hd.token) .nil)

theorem verdict_alike (he : e.Alike L e') (c : KeyClass) :
    List.Forall₂ (Anchored.Alike L) ((verdict c e).map (·, e.token))
      ((verdict c e').map (·, e'.token)) := by
  have hwarned := L.made_of_one (fun key => "GORM tag '" ++ key
    ++ "' is deprecated or not recommended. Consider using alternative approaches.") he.token
  cases c with
  | recommended => exact .nil
  | unknown =>
    exact .cons ⟨rfl, L.made_of_one (fun key => "Unknown GORM tag '" ++ key
      ++ "'. Check GORM documentation for valid tags.") he.token, he.token⟩ .nil
  | caution => exact .cons ⟨rfl, hwarned, he.token⟩ .nil
  | deprecated => exact .cons ⟨rfl, hwarned, he.token⟩ .nil

theorem alike_self_of_onEntry (h : f.OnEntry) : f.Alike L f := by
  refine ⟨rfl, L.message_refl _, ?_⟩
  rw [h.key]
  exact .none

theorem entryFindings_alike {values : TagEntry → List Finding}
    (honEntry : ∀ e, ∀ f ∈ values e, f.OnEntry)
    (hbefore : List.Forall₂ (TagEntry.Alike L) before before') (he : e.Alike L e')
    (hclass : v.classify e.key = v'.classify e'.key) (hvalues : values e = values e') :
    List.Forall₂ (Anchored.Alike L) (entryFindings v values before e)
      (entryFindings v' values before' e') := by
  have hself : List.Forall₂ (Finding.Alike L) (values e) (values e) :=
    List.forall₂_same.mpr fun f hf => alike_self_of_onEntry (honEntry e f hf)
  have hown :
      List.Forall₂ (Anchored.Alike L) ((values e).map (anchor e.token))
        ((values e).map (anchor e'.token)) :=
    List.rel_map (fun _ _ hf => alike_anchor hf he.token) hself
  rw [entryFindings, entryFindings, ← hclass, ← hvalues]
  exact List.rel_append
    (List.rel_append (List.rel_append (repeatErrors_alike hbefore he) (verdict_alike he _)) hown)
    (pairErrors_alike hbefore he)

theorem classify_alike (v : Vocabulary) (he : e.Alike L e') :
    v.classify e.key = v.classify e'.key := by
  rw [Vocabulary.classify, Vocabulary.classify, Vocabulary.row?_congr he.folded]

/-- Of entries alike the built-in rules say the same, but for how the keys are written. -/
theorem exists_findings_alike (h : List.Forall₂ (TagEntry.Alike L) as bs) :
    ∃ found found', findings {} as = .ok found ∧ findings {} bs = .ok found' ∧
      List.Forall₂ (Anchored.Alike L) found found' := by
  choose values hvalues honEntry using valueFindings_ok
  have hsame : ∀ e e', TagEntry.Alike L e e' → values e = values e' := by
    intro e e' he
    have hreads := ValueRule.readsValue_of_get? (b := {}) (by simp)
    have hfound := valueFindings_congr (r := {}) rfl hreads he.lowered he.value
    rw [hvalues, hvalues] at hfound
    exact Except.ok.inj hfound
  refine ⟨_, _, findings_eq fun e _ => hvalues e, findings_eq fun e _ => hvalues e,
    List.rel_append ?_ ?_⟩
  · refine rel_byPosition h ?_
    intro before before' e e' hbefore he
    exact entryFindings_alike honEntry hbefore he (classify_alike _ he) (hsame e e' he)
  · exact Combination.findings_alike (firsts_alike h)

end FieldPass

/-! ## The rules on a struct -/

namespace StructRule
variable {D : Diagnostic → Diagnostic → Prop} {s s' : StructDecl}
  {scanned scanned' : List ScannedField}

/-- What is reported of a field under a key is related to what is reported of the other field under
its key. -/
structure Related (D : Diagnostic → Diagnostic → Prop) (s s' : StructDecl)
    (x y : FieldDecl × Text) : Prop where
  name : x.1.name = y.1.name
  report : ∀ finding, D (diagnostic s x.1 finding x.2) (diagnostic s' y.1 finding y.2)

/-- The entries are one for the rules on a struct. -/
structure RelatedEntries (D : Diagnostic → Diagnostic → Prop) (s s' : StructDecl) (f f' : FieldDecl)
    (e e' : TagEntry) :
    Prop where
  lowered : e.lowered = e'.lowered
  value : e.value = e'.value
  token : Related D s s' (f, e.token) (f', e'.token)

def RelatedFields (D : Diagnostic → Diagnostic → Prop) (s s' : StructDecl)
    (p q : ScannedField) : Prop :=
  List.Forall₂ (RelatedEntries D s s' p.1 q.1) p.2 q.2

theorem columnNames_related (h : List.Forall₂ (RelatedFields D s s') scanned scanned') :
    List.Forall₂ D (columnNames s scanned) (columnNames s' scanned') := by
  have hclaims :
      List.Forall₂ (fun x y => RelatedEntries D s s' x.1 y.1 x.2 y.2) (columnClaims scanned)
        (columnClaims scanned') := by
    refine List.rel_flatMap h ?_
    rintro ⟨f, entries⟩ ⟨f', entries'⟩ hentries
    simp only [List.forall₂_map_left_iff, List.forall₂_map_right_iff]
    refine List.rel_filter ?_ hentries
    intro e e' he
    simp only [he.lowered, he.value]
  refine List.rel_filterMap ?_ hclaims
  rintro ⟨f, e⟩ ⟨f', e'⟩ he
  have hvalue : e.value = e'.value := he.value
  have hname : f.name = f'.name := he.token.name
  have hreport :
      ∀ finding, D (diagnostic s f finding e.token) (diagnostic s' f' finding e'.token) :=
      he.token.report
  have howner := find?_cases (p := (·.2.value = e'.value)) (q := (·.2.value = e'.value))
    (fun x y hxy => by rw [hxy.value]) hclaims
  simp only [owner?, hvalue]
  rcases howner with ⟨hleft, hright⟩ | ⟨o, o', hleft, hright, ho⟩
  · rw [hleft, hright]
    exact .none
  · have howns : o.1.name = o'.1.name := ho.token.name
    simp only [hleft, hright, Option.map_some, howns, hname]
    split
    · exact .none
    · exact .some (hreport _)

/-- The fields with an entry of some kind, each with the key of the first such entry. -/
theorem firsts_related {p : TagEntry → Bool}
    (hp : ∀ e e' : TagEntry, e.lowered = e'.lowered → e.value = e'.value → p e = p e')
    (h : List.Forall₂ (RelatedFields D s s') scanned scanned') :
    List.Forall₂ (Related D s s') (scanned.filterMap fun (f, entries) =>
      (entries.find? p).map fun e => (f, e.token))
      (scanned'.filterMap fun (f, entries) => (entries.find? p).map fun e => (f, e.token)) := by
  refine List.rel_filterMap ?_ h
  rintro ⟨f, entries⟩ ⟨f', entries'⟩ hentries
  rcases find?_cases (fun e e' he => hp e e' he.lowered he.value) hentries with
    ⟨hleft, hright⟩ | ⟨e, e', hleft, hright, he⟩
  · simp only [hleft, hright]
    exact .none
  · simp only [hleft, hright]
    exact .some he.token

theorem multiplePrimaryKeys_related (h : List.Forall₂ (RelatedFields D s s') scanned scanned') :
    List.Forall₂ D (multiplePrimaryKeys s scanned) (multiplePrimaryKeys s' scanned') := by
  have hmarked : List.Forall₂ (Related D s s') (primaryKeys scanned) (primaryKeys scanned') := by
    refine firsts_related ?_ h
    intro e e' hlowered _
    rw [hlowered]
  simp only [multiplePrimaryKeys, hmarked.length_eq]
  split
  · exact .nil
  · exact List.rel_map (fun _ _ hxy => hxy.report _) hmarked

theorem indexName?_related (hlowered : e.lowered = e'.lowered) (hvalue : e.value = e'.value) :
    indexName? e = indexName? e' := by
  rw [indexName?, indexName?, hlowered, hvalue]

theorem indexNames_related (h : List.Forall₂ (RelatedFields D s s') scanned scanned') :
    indexNames scanned = indexNames scanned' := by
  refine congrArg List.eraseDups ?_
  have hnames : List.Forall₂ Eq (scanned.flatMap fun p => p.2.filterMap indexName?)
      (scanned'.flatMap fun p => p.2.filterMap indexName?) := by
    refine List.rel_flatMap h ?_
    rintro p q hentries
    refine List.rel_filterMap ?_ hentries
    intro e e' he
    rw [indexName?_related he.lowered he.value]
    cases indexName? e' with
    | none => exact .none
    | some name => exact .some rfl
  rwa [List.forall₂_eq_eq_eq] at hnames

theorem sharedIndexes_related (h : List.Forall₂ (RelatedFields D s s') scanned scanned') :
    List.Forall₂ D (sharedIndexes s scanned) (sharedIndexes s' scanned') := by
  have hmembers :
      ∀ name, List.Forall₂ (Related D s s') (indexMembers scanned name)
        (indexMembers scanned' name) := by
    intro name
    refine firsts_related ?_ h
    intro e e' hlowered hvalue
    rw [indexName?_related hlowered hvalue]
  simp only [sharedIndexes, indexNames_related h]
  refine List.rel_flatMap (List.forall₂_same.mpr fun _ _ => rfl) ?_
  rintro name _ rfl
  have hnames : List.Forall₂ Eq ((indexMembers scanned name).map (·.1.name))
      ((indexMembers scanned' name).map (·.1.name)) :=
        List.rel_map (fun _ _ hxy => hxy.name) (hmembers name)
  rw [List.forall₂_eq_eq_eq] at hnames
  simp only [(hmembers name).length_eq, hnames]
  split
  · exact .nil
  · exact List.rel_map (fun _ _ hxy => hxy.report _) (hmembers name)

/-- The rules on a struct report the same of fields whose entries are one for them. -/
theorem findings_related (h : List.Forall₂ (RelatedFields D s s') scanned scanned') :
    List.Forall₂ D (findings s scanned) (findings s' scanned') :=
  List.rel_append (List.rel_append (columnNames_related h) (multiplePrimaryKeys_related h))
    (sharedIndexes_related h)

end StructRule
end TagLint
