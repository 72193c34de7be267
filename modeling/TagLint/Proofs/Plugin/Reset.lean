import TagLint.Proofs.Plugin.Applied

/-! Taking a load back: what was there before stays, unless a plugin has offered it again. -/
namespace TagLint
open Text Offers

variable {α : Type} {v : Vocabulary} {b : RuleBook} {r : Registry} {k : Text}

/-- Under different keys, a filter takes away what it finds to take away. -/
theorem find?_filter_of_nodup (f : α → Text) (keep : α → Bool) {l : List α}
    (hnodup : (l.map f).Nodup) (k : Text) :
    (l.filter keep).find? (f · = k) = (l.find? (f · = k)).filter keep := by
  induction l with
  | nil => rfl
  | cons x l ih =>
    obtain ⟨hx, hnodup⟩ := List.nodup_cons.mp hnodup
    by_cases hkey : f x = k
    · subst k
      have hnone : (l.filter keep).find? (f · = f x) = none := by
        rw [List.find?_eq_none]
        intro y hy heq
        exact hx (of_decide_eq_true heq ▸ List.mem_map_of_mem (List.mem_filter.mp hy).1)
      cases hkeep : keep x with
      | true => simp [hkeep, Option.filter]
      | false => simp [hkeep, Option.filter, hnone]
    · cases hkeep : keep x <;> simp [hkeep, hkey, ih hnodup]

/-! ## Registries that have lost something -/

/-- Two registries that give the same classes, spellings and rules. -/
structure Registry.SameLookups (r r' : Registry) : Prop where
  classify : ∀ k, r'.vocabulary.classify k = r.vocabulary.classify k
  canonicalName : ∀ k, r'.vocabulary.canonicalName k = r.vocabulary.canonicalName k
  get? : ∀ k, r'.rules.get? k = r.rules.get? k

/-- A key that is lost has no class any more. -/
theorem Vocabulary.Sound.keeps_all (h : v.Sound) {keep : KeyRow → Bool}
    (hclass : ∀ k, Vocabulary.classify ⟨v.added.filter keep⟩ k = v.classify k) :
    ∀ row ∈ v.added, keep row := by
  intro row hrow
  by_contra hlost
  have hnamed := (h.named row hrow).foldKey_name
  have hfresh : isBuiltin (foldKey row.name) = false := by
    rw [hnamed]
    exact h.fresh row hrow
  have hnone : added? ⟨v.added.filter keep⟩ row.folded = none := by
    rw [added?, find?_filter_of_nodup KeyRow.folded keep h.nodup,
      find?_of_mem KeyRow.folded h.nodup hrow]
    simp [Option.filter, hlost]
  have hunknown : Vocabulary.classify ⟨v.added.filter keep⟩ row.name = .unknown := by
    rw [classify, row?, find?_rows_of_fresh hfresh, hnamed, hnone]
    rfl
  have hknown := h.classify_name (List.mem_append_right builtin hrow)
  exact h.classed row hrow (hknown.symm.trans ((hclass row.name).symm.trans hunknown))

/-- A key that has lost its rule has none. -/
theorem RuleBook.Sound.keeps_all (h : b.Sound) {keep : Text × ValueRule → Bool}
    (hget : ∀ k, RuleBook.get? ⟨b.added.filter keep⟩ k = b.get? k) : ∀ p ∈ b.added, keep p := by
  intro p hp
  by_contra hlost
  have hlookup : ∀ b : RuleBook, b.get? p.1 = b.added? p.1 := by
    intro b
    change Dict.get? (lower p.1) b.rules = _
    rw [h.lowered p hp, get?_rules_of_fresh (h.fresh p hp)]
  have hnone : added? ⟨b.added.filter keep⟩ p.1 = none := by
    rw [added?, Dict.get?, find?_filter_of_nodup Prod.fst keep h.nodup,
      find?_of_mem Prod.fst h.nodup hp]
    simp [Option.filter, hlost]
  have hsame := hget p.1
  rw [hlookup, hlookup, hnone, h.added?_of_mem hp] at hsame
  cases hsame

namespace Host

/-! ## Reset -/

theorem reset_load (plugins : List Registered) (locals : List LocalFile)
    (hkeys : r.vocabulary.Sound) (hrules : r.rules.Sound) :
    let s := Host.load { plugins } r locals
    (s.host.reset s.registry).2 =
      ⟨⟨r.vocabulary.added.filter fun row => !Vocabulary.reoffered s.host.keyOffers row⟩,
        ⟨r.rules.added.filter fun p => !RuleBook.reoffered s.host.ruleOffers p⟩⟩ := by
  intro s
  have haddedKeys :
      s.host.addedKeys = (accepted Vocabulary.addItem r.vocabulary s.host.keyOffers).map Prod.fst :=
    load_addedKeys { plugins } r locals
  have haddedRules :
      s.host.addedRules = (accepted RuleBook.addItem r.rules s.host.ruleOffers).map Prod.fst :=
    load_addedRules { plugins } r locals
  have hvocabulary :
      s.registry.vocabulary = takeAll Vocabulary.addItem r.vocabulary s.host.keyOffers :=
    load_vocabulary { plugins } r locals
  have hbook : s.registry.rules = takeAll RuleBook.addItem r.rules s.host.ruleOffers :=
    load_rules { plugins } r locals
  rw [reset, haddedKeys, haddedRules, hvocabulary, hbook, hkeys.dropKeys_takeAll,
    hrules.dropRules_takeAll]

/-- Loading plugins on a fresh host and resetting it takes away all that was loaded, and of what was
registered before exactly the keys that were offered again with their class and the rules that were
offered again. So the registry is restored exactly when nothing was. -/
theorem reset_load_restores_iff (calls : List RegistryCall) (plugins : List Registered)
    (locals : List LocalFile) :
    let r := ({} : Registry).after calls
    let s := Host.load { plugins } r locals
    let r' := (s.host.reset s.registry).2
    r'.vocabulary.added
      = r.vocabulary.added.filter (fun row => !Vocabulary.reoffered s.host.keyOffers row) ∧
    r'.rules.added = r.rules.added.filter (fun p => !RuleBook.reoffered s.host.ruleOffers p) ∧
    (r.SameLookups r' ↔
      (∀ row ∈ r.vocabulary.added, Vocabulary.reoffered s.host.keyOffers row = false) ∧
      ∀ p ∈ r.rules.added, RuleBook.reoffered s.host.ruleOffers p = false) := by
  intro r s r'
  have hkeys : r.vocabulary.Sound := Registry.sound_vocabulary calls
  have hrules : r.rules.Sound := Registry.sound_rules calls
  have hreset : r' = _ := reset_load plugins locals hkeys hrules
  refine ⟨by rw [hreset], by rw [hreset], ?_⟩
  rw [hreset]
  constructor
  · intro hsame
    have hkept := hkeys.keeps_all hsame.classify
    have hkept' := hrules.keeps_all hsame.get?
    exact ⟨fun row hrow => by simpa using hkept row hrow, fun p hp => by simpa using hkept' p hp⟩
  · rintro ⟨hkept, hkept'⟩
    have hall : r.vocabulary.added.filter (fun row => !Vocabulary.reoffered s.host.keyOffers row)
        = r.vocabulary.added :=
      List.filter_eq_self.mpr fun row hrow => by rw [hkept row hrow]; rfl
    have hall' : r.rules.added.filter (fun p => !RuleBook.reoffered s.host.ruleOffers p)
        = r.rules.added :=
      List.filter_eq_self.mpr fun p hp => by rw [hkept' p hp]; rfl
    rw [hall, hall']
    exact ⟨fun _ => rfl, fun _ => rfl, fun _ => rfl⟩

/-- A plugin that offers a key which is there already, with the class that it has. -/
def echoPlugin : Registered :=
  ⟨"P", .started, { className := "P", keys := some (.pairs [("tenant", .known .caution)]) }⟩

theorem reset_drops_earlier_key :
    let r := ({} : Registry).after [.key (.add "Tenant" (.known .caution))]
    let s := Host.load { plugins := [echoPlugin] } r []
    let r' := (s.host.reset s.registry).2
    r.vocabulary.classify "tenant" = .caution ∧
    r.vocabulary.canonicalName "tenant" = "Tenant".toList ∧
    r'.vocabulary.classify "tenant" = .unknown ∧
    r'.vocabulary.canonicalName "tenant" = "tenant".toList := by
  decide +kernel

end Host
end TagLint
