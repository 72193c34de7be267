import TagLint.Proofs.Plugin.Applied
import TagLint.Proofs.Plugin.Loading

/-! Plugins on a fresh host: the first one that offers a key or a rule decides, and loading again
changes nothing. -/
namespace TagLint
open Text Offers

variable {v : Vocabulary} {r : Registry} {h : Host} {s : Host.Load} {p : Registered} {k name : Text}
  {row : KeyRow} {rule : ValueRule} {keys : List (Text × ClassGiven)}
  {rules : List (Text × Option ValueRule)} {named : List (Text × Plugin)} {plugin : Plugin}

/-! ## What is found after the offers -/

namespace Vocabulary

theorem row?_of_fresh (hfresh : isBuiltin (foldKey k) = false) :
    v.row? k = v.added? (foldKey k) := by
  rw [row?, find?_rows_of_fresh hfresh]

theorem exists_row?_of_builtin (hbuiltin : isBuiltin (foldKey k)) :
    ∃ row, ∀ v : Vocabulary, v.row? k = some row := by
  obtain ⟨row, hrow, hfolded⟩ := List.mem_map.mp (isBuiltin_iff.mp hbuiltin)
  exact ⟨row, fun v => row?_builtin hrow hfolded.symm⟩

theorem classify_of_fresh (hfresh : isBuiltin (foldKey k) = false) :
    v.classify k = (v.classAt (foldKey k)).getD .unknown := by
  rw [classify, row?_of_fresh hfresh, classAt]

theorem canonicalName_of_fresh (hfresh : isBuiltin (foldKey k) = false) :
    v.canonicalName k = (v.nameAt (foldKey k)).getD (trim k) := by
  rw [canonicalName, row?_of_fresh hfresh, nameAt]

/-- Nothing is accepted for a built-in key. -/
theorem lastSpelling?_of_builtin (hbuiltin : isBuiltin k) : v.lastSpelling? keys k = none := by
  have hnone : (accepted addItem v keys).filter (foldKey ·.1 = k) = [] := by
    rw [List.filter_eq_nil_iff]
    intro item hitem hkey
    obtain ⟨v₁, v₂, hadd⟩ := exists_of_mem_accepted hitem
    obtain ⟨hfresh, -⟩ := asked?_of_ok hadd
    rw [of_decide_eq_true hkey, hbuiltin] at hfresh
    cases hfresh
  rw [lastSpelling?, hnone]
  rfl

/-- A key that is there keeps its class. -/
theorem classify_takeAll_of_row (hrow : v.row? k = some row) :
    (takeAll addItem v keys).classify k = row.keyClass := by
  by_cases hbuiltin : isBuiltin (foldKey k)
  · obtain ⟨row', hall⟩ := exists_row?_of_builtin hbuiltin
    obtain rfl := Option.some.inj ((hall v).symm.trans hrow)
    rw [classify, hall]
    rfl
  · have hfresh : isBuiltin (foldKey k) = false := by simpa using hbuiltin
    rw [row?_of_fresh hfresh] at hrow
    rw [classify_of_fresh hfresh, classAt_takeAll hfresh, classAt, hrow]
    rfl

/-- Another key has the class that the first offer asks for. -/
theorem classify_takeAll_of_none (hrow : v.row? k = none) :
    (takeAll addItem v keys).classify k = (keys.findSome? (asked? (foldKey k))).getD .unknown := by
  by_cases hbuiltin : isBuiltin (foldKey k)
  · obtain ⟨row', hall⟩ := exists_row?_of_builtin hbuiltin
    simp [hall v] at hrow
  · have hfresh : isBuiltin (foldKey k) = false := by simpa using hbuiltin
    rw [row?_of_fresh hfresh] at hrow
    rw [classify_of_fresh hfresh, classAt_takeAll hfresh, classAt, hrow]
    rfl

theorem canonicalName_takeAll (v : Vocabulary) (keys : List (Text × ClassGiven)) (k : Text) :
    (takeAll addItem v keys).canonicalName k
      = (v.lastSpelling? keys (foldKey k)).getD (v.canonicalName k) := by
  by_cases hbuiltin : isBuiltin (foldKey k)
  · obtain ⟨row', hall⟩ := exists_row?_of_builtin hbuiltin
    rw [lastSpelling?_of_builtin hbuiltin, canonicalName, hall, canonicalName, hall]
    rfl
  · have hfresh : isBuiltin (foldKey k) = false := by simpa using hbuiltin
    rw [canonicalName_of_fresh hfresh, nameAt_takeAll, canonicalName_of_fresh hfresh]
    cases v.lastSpelling? keys (foldKey k) <;> rfl

end Vocabulary

namespace RuleBook

/-- A key that has a rule keeps it; another one has the first rule that is offered for it. -/
theorem get?_takeAll (b : RuleBook) (rules : List (Text × Option ValueRule)) (k : Text) :
    (takeAll addItem b rules).get? k = (b.get? k).or (rules.findSome? (offered? (lower k))) := by
  have hget : ∀ b : RuleBook, b.get? k = Dict.get? (lower k) b.rules := fun _ => rfl
  rw [hget, hget]
  by_cases hbuiltin : isBuiltin (lower k)
  · obtain ⟨rule, hrule⟩ := exists_of_isBuiltin hbuiltin
    simp only [RuleBook.rules, Dict.get?_append, hrule, Option.some_or]
  · have hfresh : isBuiltin (lower k) = false := by simpa using hbuiltin
    rw [get?_rules_of_fresh hfresh, get?_rules_of_fresh hfresh, added?_takeAll hfresh]

end RuleBook

/-! ## Instances on a fresh host -/

namespace Host

/-- A fresh host on which instances are registered. -/
def ofInstances (named : List (Text × Plugin)) : Host :=
  { plugins := named.map fun p => ⟨p.1, .started, p.2⟩ }

theorem start_of_started (hp : p.form = .started) : s.start p = s := by simp [Load.start, hp]

theorem foldl_start {ps : List Registered} (hps : ∀ p ∈ ps, p.form = .started) :
    ps.foldl Load.start s = s := by
  induction ps with
  | nil => rfl
  | cons p ps ih =>
    obtain ⟨hp, hps⟩ := List.forall_mem_cons.mp hps
    rw [List.foldl_cons, start_of_started hp, ih hps]

/-- Instances stay in their places. -/
theorem load_plugins (hps : ∀ p ∈ h.plugins, p.form = .started) (r : Registry) :
    (h.load r []).host.plugins = h.plugins := by
  have happlied := Load.applied_plugins h.plugins { host := h, registry := r }
  simp only [load, foldl_start hps, List.foldl_nil]
  exact happlied.plugins

theorem started_ofInstances (named : List (Text × Plugin)) :
    ∀ p ∈ (ofInstances named).plugins, p.form = .started := by
  intro p hp
  obtain ⟨q, -, rfl⟩ := List.mem_map.mp hp
  rfl

/-! ## Loading -/

theorem load_registry (hps : ∀ p ∈ h.plugins, p.form = .started) (r : Registry) :
    (h.load r []).registry =
    ⟨takeAll Vocabulary.addItem r.vocabulary h.keyOffers,
      takeAll RuleBook.addItem r.rules h.ruleOffers⟩ := by
  have hplugins := load_plugins hps r
  have hvocabulary := load_vocabulary h r []
  have hrules := load_rules h r []
  rw [keyOffers, hplugins] at hvocabulary
  rw [ruleOffers, hplugins] at hrules
  exact congrArg₂ Registry.mk hvocabulary hrules

/-- A second load finds everything in its place. -/
theorem load_load (hps : ∀ p ∈ h.plugins, p.form = .started) (hsound : r.vocabulary.Sound) :
    ((h.load r []).host.load (h.load r []).registry []).registry = (h.load r []).registry := by
  have hplugins := load_plugins hps r
  have hkeys : (h.load r []).host.keyOffers = h.keyOffers := by rw [keyOffers, hplugins, keyOffers]
  have hrules : (h.load r []).host.ruleOffers
      = h.ruleOffers := by rw [ruleOffers, hplugins, ruleOffers]
  rw [load_registry (by rwa [hplugins]), load_registry hps, hkeys, hrules]
  exact congrArg₂ Registry.mk (Vocabulary.takeAll_takeAll hsound _) (RuleBook.takeAll_takeAll _ _)

/-- Instances that are loaded on a fresh host, whatever was registered before: nothing is raised. A
key that was there keeps its class; another one has the class that the first acceptable offer asks
for, in the order of the plugins and then of their pairs. It is spelled as in the last offer that
was accepted. A key that had a rule keeps it; another one has the first rule that was offered for
it. Loading again changes nothing. -/
theorem load_firstCome (calls : List RegistryCall) (named : List (Text × Plugin)) :
    let r := ({} : Registry).after calls
    let h := ofInstances named
    let s := h.load r []
    Loading.Ends (Loading.load []) { host := h, registry := r } (named.map Prod.fst) s ∧
    (∀ k row, r.vocabulary.row? k = some row → s.registry.vocabulary.classify k = row.keyClass) ∧
    (∀ k, r.vocabulary.row? k = none → s.registry.vocabulary.classify k =
      (h.keyOffers.findSome? (Vocabulary.asked? (foldKey k))).getD .unknown) ∧
    (∀ k, s.registry.vocabulary.canonicalName k =
      (r.vocabulary.lastSpelling? h.keyOffers (foldKey k)).getD (r.vocabulary.canonicalName k)) ∧
    (∀ k rule, r.rules.get? k = some rule → s.registry.rules.get? k = some rule) ∧
    (∀ k, r.rules.get? k = none → s.registry.rules.get? k =
      h.ruleOffers.findSome? (RuleBook.offered? (lower k))) ∧
    (s.host.load s.registry []).registry = s.registry ∧
    (s.host.load s.registry []).host.names = s.host.names := by
  intro r h s
  have hstarted := started_ofInstances named
  have hplugins : s.host.plugins = h.plugins := load_plugins hstarted r
  have hregistry : s.registry = ⟨takeAll Vocabulary.addItem r.vocabulary h.keyOffers,
    takeAll RuleBook.addItem r.rules h.ruleOffers⟩ := load_registry hstarted r
  have hnames : s.host.names = named.map Prod.fst := by
    rw [names, hplugins]
    exact List.map_map
  have hagain : (s.host.load s.registry []).host.plugins = s.host.plugins :=
    load_plugins (by rwa [hplugins]) s.registry
  refine ⟨?_, ?_, ?_, ?_, ?_, ?_, load_load hstarted (Registry.sound_vocabulary calls), ?_⟩
  · have hends := Loading.ends_load h r []
    change Loading.Ends _ _ s.host.names s at hends
    rwa [hnames] at hends
  · intro k row hrow
    rw [hregistry]
    exact Vocabulary.classify_takeAll_of_row hrow
  · intro k hrow
    rw [hregistry]
    exact Vocabulary.classify_takeAll_of_none hrow
  · intro k
    rw [hregistry]
    exact Vocabulary.canonicalName_takeAll _ _ k
  · intro k rule hrule
    rw [hregistry, RuleBook.get?_takeAll, hrule]
    rfl
  · intro k hrule
    rw [hregistry, RuleBook.get?_takeAll, hrule]
    rfl
  · rw [names, hagain, names]

def ownerCalls : List RegistryCall :=
  [.key (.add "Owner" (.known .caution)), .rule (.add "owner" (some (Registry.silent "first")))]

/-- Both offer the same keys in other casings, with other classes and other rules. -/
def rivalPlugins : List (Text × Plugin) := [
  ("a", {
    className := "A"
    keys := some (.pairs [(" OWNER", .known .recommended), ("tenant", .known .caution)])
    rules := some
      (.pairs [("Tenant", some (Registry.silent "a")), ("owner", some (Registry.silent "x"))]) }),
  ("b", {
    className := "B"
    keys := some (.pairs [("TENANT", .known .deprecated), ("Tenant ", .known .caution)])
    rules := some (.pairs [("tenant", some (Registry.silent "b"))]) })]

theorem load_firstCome_rivalPlugins :
    let r := ({} : Registry).after ownerCalls
    let s := (ofInstances rivalPlugins).load r []
    s.registry.vocabulary.classify "owner" = .caution ∧
    s.registry.vocabulary.classify "tenant" = .caution ∧
    s.registry.vocabulary.canonicalName "tenant" = "Tenant".toList ∧
    (s.registry.rules.get? "OWNER").map ValueRule.id = some (.shared "first") ∧
    (s.registry.rules.get? "Tenant").map ValueRule.id = some (.shared "a") ∧
    (s.host.load s.registry []).registry = s.registry := by
  intro r s
  obtain ⟨-, hkept, hfirst, hspelled, hrule, hfirstRule, hagain, -⟩ :=
    load_firstCome ownerCalls rivalPlugins
  obtain ⟨howner, htenant, hruled, hunruled⟩ : r.vocabulary.row? "owner"
      = some ⟨"owner", "Owner", .caution⟩ ∧
      r.vocabulary.row? "tenant" = none ∧
        (r.rules.get? "OWNER").map ValueRule.id = some (.shared "first") ∧
      (r.rules.get? "Tenant").isNone := by
    decide +kernel
  refine ⟨?_, ?_, ?_, ?_, ?_, hagain⟩
  · rw [hkept "owner" _ howner]
  · rw [hfirst "tenant" htenant]
    decide +kernel
  · rw [hspelled]
    decide +kernel
  · obtain ⟨rule, hget, hid⟩ := Option.map_eq_some_iff.mp hruled
    rw [hrule "OWNER" rule hget, Option.map_some, hid]
  · rw [hfirstRule "Tenant" (Option.isNone_iff_eq_none.mp hunruled)]
    decide +kernel

end Host
end TagLint
