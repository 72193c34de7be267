import TagLint.Proofs.Rule.Anchors
import TagLint.Proofs.Rule.FieldPass

/-! The entries of a field in another order: the same is said of them, in another order. -/
namespace TagLint
open Text

variable {β : Type} {entries before a b : List TagEntry} {e : TagEntry} {f : Finding}
  {values : TagEntry → List Finding} {scan scan' : FieldScan} {v : Vocabulary}

theorem filter_of_false {p : β → Bool} {l : List β} (h : ∀ x ∈ l, p x = false) :
    l.filter p = [] ∧ l.filter (!p ·) = l :=
  ⟨List.filter_eq_nil_iff.mpr fun x hx => by simp [h x hx], List.filter_eq_self.mpr fun x hx =>
    by simp [h x hx]⟩

theorem filter_of_true {p : β → Bool} {l : List β} (h : ∀ x ∈ l, p x = true) :
    l.filter p = l ∧ l.filter (!p ·) = [] :=
  ⟨List.filter_eq_self.mpr h, List.filter_eq_nil_iff.mpr fun x hx => by simp [h x hx]⟩

namespace FieldPass

theorem repeatErrors_of_nodup (h : (entries.map TagEntry.lowered).Nodup) :
    byPosition repeatErrors entries = [] := by
  have hcount := length_repeatErrors entries
  rw [List.toFinset_card_of_nodup h, List.length_map] at hcount
  exact List.length_eq_zero_iff.mp (by omega)

theorem pairOf_of_sameKeys (h : SameKeys a b) : pairOf a = pairOf b := by
  rw [pairOf, pairOf, h, h]

/-! ## Findings on entries -/

/-- What is said of an entry whatever stands before it. -/
def ownFindings (v : Vocabulary) (values : TagEntry → List Finding) (e : TagEntry) :
    List Anchored :=
  (verdict (v.classify e.key) e).map (·, e.token) ++ (values e).map (anchor e.token)

theorem byPosition_entryFindings_perm (hnodup : (entries.map TagEntry.lowered).Nodup) :
    (byPosition (entryFindings v values) entries).Perm (entries.flatMap (ownFindings v values)
      ++ pairOf entries) := by
  have hparts : entryFindings v values
      = fun before e =>
        (repeatErrors before e ++ ownFindings v values e) ++ pairErrors before e := by
    funext before e
    simp only [entryFindings, ownFindings, List.append_assoc]
  have hown :
      (byPosition (fun before e => repeatErrors before e ++ ownFindings v values e) entries).Perm
      (entries.flatMap (ownFindings v values)) := by
    have hperm := byPosition_append_perm repeatErrors (fun _ e => ownFindings v values e) entries
    rwa [repeatErrors_of_nodup hnodup, List.nil_append, byPosition_of_entry] at hperm
  rw [hparts]
  exact (byPosition_append_perm _ _ entries).trans
    (hown.append (byPosition_pairErrors_perm entries))

theorem entryFindings_of_perm (hnodup : (a.map TagEntry.lowered).Nodup) (h : a.Perm b) :
    (byPosition (entryFindings v values) a).Perm (byPosition (entryFindings v values) b) := by
  have hnodup' : (b.map TagEntry.lowered).Nodup := (h.map _).nodup_iff.mp hnodup
  refine (byPosition_entryFindings_perm hnodup).trans
    (.trans ?_ (byPosition_entryFindings_perm hnodup').symm)
  rw [pairOf_of_sameKeys (sameKeys_of_perm hnodup h)]
  exact (h.flatMap_right _).append_right _

end FieldPass

/-! ## The error on an ignored field -/

/-- The message is the one on an ignored field, whatever keys it lists. -/
def saysIgnored (message : Text) : Bool := "Field marked as ignored".toList.isPrefixOf message

theorem saysIgnored_of_onEntry (h : f.OnEntry) : saysIgnored f.message = false := by
  by_contra hsays
  have hfield : "Field".toList <+: "Field marked as ignored".toList := by decide +kernel
  have hprefix : "Field marked as ignored".toList <+: f.message := by simpa [saysIgnored]
    using hsays
  have hopening := List.isPrefixOf_iff_prefix.mpr (hfield.trans hprefix)
  rw [h.opening] at hopening
  contradiction

namespace FieldPass

theorem saysIgnored_of_mem_entryFindings (hvalues : ∀ e, ∀ f ∈ values e, f.OnEntry) :
    ∀ x ∈ entryFindings v values before e, saysIgnored x.1.message = false := by
  intro x hx
  simp only [entryFindings, List.mem_append] at hx
  rcases hx with ((hx | hx) | hx) | hx
  · rw [repeatErrors] at hx
    split at hx
    · obtain rfl := List.mem_singleton.mp hx
      rfl
    · simp at hx
  · obtain ⟨f, hf, rfl⟩ := List.mem_map.mp hx
    exact saysIgnored_of_onEntry (onEntry_of_mem_verdict _ _ f hf)
  · obtain ⟨f, hf, rfl⟩ := List.mem_map.mp hx
    exact saysIgnored_of_onEntry (hvalues e f hf)
  · rw [pairErrors] at hx
    split at hx
    · simp at hx
    · split at hx
      · simp only [List.mem_cons, List.not_mem_nil, or_false] at hx
        rcases hx with rfl | rfl <;> rfl
      · simp at hx

end FieldPass

namespace Combination
open FieldPass

/-- The rules on the keys of a field beside the one on ignored fields. -/
def otherRules : List (FieldScan → List Finding) := primaryKeyNotNull :: rules.drop 2

theorem saysIgnored_of_mem_otherRules :
    ∀ rule ∈ otherRules, ∀ scan, ∀ f ∈ rule scan, saysIgnored f.message = false := by
  intro rule hrule scan f hf
  simp only [otherRules, rules, List.drop_succ_cons, List.drop_zero, List.mem_cons,
    List.not_mem_nil, or_false] at hrule
  rcases hrule with rfl | rfl | rfl | rfl | rfl | rfl | rfl
  case inr.inl =>
    simp only [conflictingPermissions] at hf
    split at hf
    · obtain rfl := List.mem_singleton.mp hf
      rfl
    · simp at hf
  all_goals
    obtain ⟨-, rfl⟩ := mem_guarded.mp hf
    rfl

theorem saysIgnored_of_mem_ignoredWithOtherKeys (scan : FieldScan) :
    ∀ f ∈ ignoredWithOtherKeys scan, saysIgnored f.message = true := by
  intro f hf
  obtain ⟨-, rfl⟩ := mem_guarded.mp hf
  rfl

theorem otherRules_of_sameKeys (h : SameKeys scan scan') :
    otherRules.flatMap (· scan) = otherRules.flatMap (· scan') := by
  refine List.flatMap_congr fun rule hrule => ?_
  have hmem : rule ∈ rules := by
    rcases List.mem_cons.mp hrule with rfl | hdrop
    · exact List.mem_cons_self
    · exact List.mem_of_mem_drop hdrop
  refine rule_of_sameKeys h rule hmem ?_
  -- rules are functions: two differ because one speaks of an ignored field where the other is
  -- silent
  rintro rfl
  have hfires : ignoredWithOtherKeys (TagEntry.ofSegment {} "-;size".toList)
      = [ignoredError ["size".toList]] := by
    decide +kernel
  have hsilent := saysIgnored_of_mem_otherRules _ hrule _ _ (hfires ▸ List.mem_singleton_self _)
  contradiction

theorem filter_saysIgnored_findings (scan : FieldScan) :
    (findings scan).filter (saysIgnored ·.message) = ignoredWithOtherKeys scan ∧
    (findings scan).filter (!saysIgnored ·.message) = otherRules.flatMap (· scan) := by
  have hparts : findings scan
      = primaryKeyNotNull scan ++ (ignoredWithOtherKeys scan ++ (rules.drop 2).flatMap (· scan)) :=
        rfl
  have hother : otherRules.flatMap (· scan) = primaryKeyNotNull scan ++ (rules.drop 2).flatMap
      (· scan) := rfl
  have hsilent : ∀ f ∈ otherRules.flatMap (· scan), saysIgnored f.message = false := by
    intro f hf
    obtain ⟨rule, hrule, hf⟩ := List.mem_flatMap.mp hf
    exact saysIgnored_of_mem_otherRules rule hrule scan f hf
  rw [hother, List.forall_mem_append] at hsilent
  have hfirst := filter_of_false hsilent.1
  have hrest := filter_of_false hsilent.2
  have hignored := filter_of_true (saysIgnored_of_mem_ignoredWithOtherKeys scan)
  rw [hparts, hother]
  simp only [List.filter_append, hfirst, hrest, hignored, List.nil_append, List.append_nil,
    and_self]

end Combination

namespace FieldPass
open Combination

/-- The keys beside the ignore flag, in the order of the entries. -/
def keysBeside (entries : List TagEntry) : List Text :=
  (entries.map TagEntry.token).filter (· ≠ ignore)

/-- The error on a field that is ignored, if it has other keys. -/
def ignoredDiagnostics (s : StructDecl) (f : FieldDecl) (entries : List TagEntry) :
    List Diagnostic :=
  if Occurs entries ignore ∧ 2 ≤ entries.length then
    [(ignoredError (keysBeside entries)).on s.name f.name f.tag ignore]
  else []

/-- Two lists of entries are told the same, but for the error on an ignored field: each lists the
other keys in its own order there. -/
structure ToldAlike (s : StructDecl) (f : FieldDecl) (a b : List TagEntry)
    (da db : List Diagnostic) : Prop where
  others : (da.filter (!saysIgnored ·.message)).Perm (db.filter (!saysIgnored ·.message))
  left : da.filter (saysIgnored ·.message) = ignoredDiagnostics s f a
  right : db.filter (saysIgnored ·.message) = ignoredDiagnostics s f b
  both : ignoredDiagnostics s f a = [] ↔ ignoredDiagnostics s f b = []
  keys : (keysBeside a).Perm (keysBeside b)

/-- The diagnostic of a finding with its key. -/
def onField (s : StructDecl) (f : FieldDecl) (x : Anchored) : Diagnostic :=
  x.1.on s.name f.name f.tag x.2

theorem filter_onField (p : Text → Bool) (s : StructDecl) (f : FieldDecl) (found : List Anchored) :
    (found.map (onField s f)).filter (p ·.message)
      = (found.filter (p ·.1.message)).map (onField s f) := by
  rw [List.filter_map]
  rfl

theorem filter_anchor (p : Text → Bool) (fallback : Text) (found : List Finding) :
    (found.map (anchor fallback)).filter (p ·.1.message)
      = (found.filter (p ·.message)).map (anchor fallback) := by
  rw [List.filter_map]
  rfl

theorem ignored_of_nodup (hnodup : (entries.map TagEntry.lowered).Nodup) (s : StructDecl)
    (f : FieldDecl) :
    ((ignoredWithOtherKeys (firsts entries)).map (anchor [])).map (onField s f)
      = ignoredDiagnostics s f entries := by
  rw [ignoredWithOtherKeys_firsts, otherTokens, firsts_of_nodup hnodup, ignoredDiagnostics]
  split <;> rfl

/-- What the pass says, with the error on an ignored field apart. -/
theorem diagnostics_parts (s : StructDecl) (f : FieldDecl)
    (hnodup : (entries.map TagEntry.lowered).Nodup)
    (hvalues : ∀ e, valueFindings {} e = .ok (values e))
    (honEntry : ∀ e, ∀ g ∈ values e, g.OnEntry) :
    ∃ found, diagnostics {} s f entries = .ok found ∧
      found.filter (saysIgnored ·.message) = ignoredDiagnostics s f entries ∧
      found.filter (!saysIgnored ·.message) = (byPosition (entryFindings {} values) entries
        ++ (otherRules.flatMap (· (firsts entries))).map (anchor [])).map (onField s f) := by
  have hsilent : ∀ x ∈ byPosition (entryFindings {} values) entries,
      saysIgnored x.1.message = false :=
    forall_mem_byPosition fun _ _ => saysIgnored_of_mem_entryFindings honEntry
  obtain ⟨hnone, hall⟩ := filter_of_false hsilent
  obtain ⟨hignored, hothers⟩ := filter_saysIgnored_findings (firsts entries)
  refine ⟨_, congrArg (Except.map _) (findings_eq fun e _ => hvalues e), ?_, ?_⟩
  · refine (filter_onField saysIgnored s f _).trans ?_
    rw [List.filter_append, hnone, filter_anchor, hignored, List.nil_append,
      ignored_of_nodup hnodup]
  · refine (filter_onField (!saysIgnored ·) s f _).trans ?_
    rw [List.filter_append, hall, filter_anchor (!saysIgnored ·), hothers]

/-- The order of entries with different keys does not matter: what is said of them in one order is
said in every other, and only the error on an ignored field shows in which. -/
theorem diagnostics_of_perm (s : StructDecl) (f : FieldDecl)
    (hnodup : (a.map TagEntry.lowered).Nodup) (h : a.Perm b) :
    ∃ da db, diagnostics {} s f a = .ok da ∧ diagnostics {} s f b = .ok db ∧
    ToldAlike s f a b da db := by
  have hnodup' : (b.map TagEntry.lowered).Nodup := (h.map _).nodup_iff.mp hnodup
  have hsame := sameKeys_of_perm hnodup h
  choose values hvalues honEntry using valueFindings_ok
  obtain ⟨da, hda, hignoredA, hothersA⟩ := diagnostics_parts s f hnodup hvalues honEntry
  obtain ⟨db, hdb, hignoredB, hothersB⟩ := diagnostics_parts s f hnodup' hvalues honEntry
  refine ⟨da, db, hda, hdb, ?_, hignoredA, hignoredB, ?_, (h.map _).filter _⟩
  · rw [hothersA, hothersB, otherRules_of_sameKeys hsame.firsts]
    exact ((entryFindings_of_perm hnodup h).append_right _).map _
  · simp [ignoredDiagnostics, occurs_of_sameKeys hsame, h.length_eq]

/-- The two keys that exclude each other, an ignored field and a value that is no number. -/
def mixed : List TagEntry := TagEntry.ofSegment {} "unique;size:x;-;primaryKey".toList

theorem diagnostics_of_perm_mixed :
    (mixed.map TagEntry.lowered).Nodup ∧ mixed.Perm mixed.reverse
    ∧ keysBeside mixed = ["unique".toList, "size".toList, "primaryKey".toList]
    ∧ keysBeside mixed.reverse = ["primaryKey".toList, "size".toList, "unique".toList]
    ∧ ∃ da db, diagnostics {} ⟨"A".toList, []⟩ ⟨"N".toList, [], []⟩ mixed = .ok da
      ∧ diagnostics {} ⟨"A".toList, []⟩ ⟨"N".toList, [], []⟩ mixed.reverse = .ok db
      ∧ ToldAlike ⟨"A".toList, []⟩ ⟨"N".toList, [], []⟩ mixed mixed.reverse da db := by
  have hnodup : (mixed.map TagEntry.lowered).Nodup := by decide +kernel
  have hperm : mixed.Perm mixed.reverse := (List.reverse_perm mixed).symm
  exact ⟨hnodup, hperm, by decide +kernel, by decide +kernel, diagnostics_of_perm _ _ hnodup hperm⟩

end FieldPass

end TagLint
