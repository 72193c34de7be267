import TagLint.Proofs.Rule.FieldScan

/-! The rules on the keys of a field see only which keys it has and how each is first written. -/
namespace TagLint
open Text FieldPass

variable {a b : List TagEntry} {scan scan' : FieldScan} {key : Text}

namespace FieldScan

theorem isSome_firstToken? (scan : FieldScan) (key : Text) :
    (firstToken? scan key).isSome = scan.has key := by
  simp [firstToken?, has, find?]

theorem has_of_sameKeys (h : SameKeys scan scan') : scan.has = scan'.has := by
  funext key
  rw [← isSome_firstToken?, ← isSome_firstToken?, h key]

theorem token_of_sameKeys (h : SameKeys scan scan') : scan.token = scan'.token := by
  funext key
  exact congrArg (·.getD key) (h key)

end FieldScan

namespace Combination

/-- The error on a field that is ignored and has other keys. -/
def ignoredError (others : List Text) : Finding :=
  .error ("Field marked as ignored ('-') cannot have other tags: " ++ join ", " others
    ++ ". Remove conflicting tags.") (some ignore)

/-- The keys beside the ignore flag, as they are written first. -/
def otherTokens (entries : List TagEntry) : List Text :=
  ((firsts entries).map TagEntry.token).filter (· ≠ ignore)

/-- What a rule with one condition and one finding gives. -/
theorem mem_guarded {guard : Bool} {f g : Finding} :
    f ∈ (if guard then [g] else []) ↔ guard ∧ f = g := by
  cases guard <;> simp

theorem length_guarded_le {guard : Bool} {f : Finding} :
    (if guard then [f] else []).length ≤ 1 := by
  cases guard <;> simp

/-- A rule fires once or not at all. -/
theorem length_rule_le : ∀ rule ∈ rules, ∀ scan, (rule scan).length ≤ 1 := by
  intro rule hrule scan
  simp only [rules, List.mem_cons, List.not_mem_nil, or_false] at hrule
  rcases hrule with rfl | rfl | rfl | rfl | rfl | rfl | rfl | rfl
  case inr.inr.inl =>
    simp only [conflictingPermissions]
    split <;> simp
  all_goals exact length_guarded_le

theorem ignoredWithOtherKeys_firsts (entries : List TagEntry) :
    ignoredWithOtherKeys (firsts entries)
      = if Occurs entries ignore ∧ 2 ≤ (firsts entries).length
        then [ignoredError (otherTokens entries)]
        else [] := by
  have hhas : FieldScan.has (firsts entries) ignore ↔ Occurs entries ignore := by
    rw [← FieldScan.ofEntries_eq_firsts, FieldScan.has_ofEntries]
  simp only [ignoredWithOtherKeys, Bool.and_eq_true, hhas, decide_eq_true_eq]
  rfl

/-- All rules but the one that lists the other keys see nothing else. -/
theorem rule_of_sameKeys (h : SameKeys scan scan') :
    ∀ rule ∈ rules, rule ≠ ignoredWithOtherKeys → rule scan = rule scan' := by
  intro rule hrule hne
  have hhas := FieldScan.has_of_sameKeys h
  have htoken := FieldScan.token_of_sameKeys h
  simp only [rules, List.mem_cons, List.not_mem_nil, or_false] at hrule
  rcases hrule with rfl | rfl | rfl | rfl | rfl | rfl | rfl | rfl
  case inr.inl => exact absurd rfl hne
  case inl => simp only [primaryKeyNotNull, hhas, htoken]
  case inr.inr.inl => simp only [conflictingPermissions, hhas]
  case inr.inr.inr.inl => simp only [indexWithUniqueIndex, hhas, htoken]
  case inr.inr.inr.inr.inl => simp only [foreignKeyWithoutReferences, hhas, htoken]
  case inr.inr.inr.inr.inr.inl => simp only [many2manyWithForeignKeys, hhas, htoken]
  case inr.inr.inr.inr.inr.inr.inl => simp only [embeddedWithColumn, hhas, htoken]
  case inr.inr.inr.inr.inr.inr.inr => simp only [dualTimeTracking, hhas, htoken]

theorem occurs_of_sameKeys (h : SameKeys a b) : Occurs a key ↔ Occurs b key := by
  rw [← isSome_firstToken?_iff, ← isSome_firstToken?_iff, h key]

/-- The errors on two ignored fields are there for both or for neither, and differ at most in the
order in which they list the other keys, which is the order of the fields. -/
structure IgnoredAlike (a b : List TagEntry) : Prop where
  both : ignoredWithOtherKeys (firsts a) = [] ↔ ignoredWithOtherKeys (firsts b) = []
  left : ignoredWithOtherKeys (firsts a) ≠ [] →
    ignoredWithOtherKeys (firsts a) = [ignoredError (otherTokens a)]
  right : ignoredWithOtherKeys (firsts b) ≠ [] →
    ignoredWithOtherKeys (firsts b) = [ignoredError (otherTokens b)]
  tokens : (otherTokens a).Perm (otherTokens b)

theorem ignoredAlike_of_sameKeys (h : SameKeys a b) : IgnoredAlike a b := by
  have hlength : (firsts a).length = (firsts b).length := by simpa using h.perm.length_eq
  constructor
  · simp [ignoredWithOtherKeys_firsts, occurs_of_sameKeys h, hlength]
  · rw [ignoredWithOtherKeys_firsts]
    split <;> simp
  · rw [ignoredWithOtherKeys_firsts]
    split <;> simp
  · exact h.perm.filter _

end Combination
end TagLint
