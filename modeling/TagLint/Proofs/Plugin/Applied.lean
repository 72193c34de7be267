import TagLint.Plugin.Host
import TagLint.Proofs.Registry.KeyOffers
import TagLint.Proofs.Registry.RuleOffers
import TagLint.Proofs.Registry.Run

/-! What loading does to a registry: all plugins together offer their keys and their rules, one
after another, and the host remembers those that were accepted. -/
namespace TagLint
open Text Offers

variable {s s' s'' : Host.Load} {h : Host} {r : Registry} {α : Type}
  {keys keys' : List (Text × ClassGiven)} {rules rules' : List (Text × Option ValueRule)}

/-! ## Registries that calls lead to -/

theorem Registry.sound_vocabulary (calls : List RegistryCall) :
    (({} : Registry).after calls).vocabulary.Sound := by
  rw [vocabulary_after]
  exact Vocabulary.sound_empty.after _

theorem Registry.sound_rules (calls : List RegistryCall) :
    (({} : Registry).after calls).rules.Sound := by
  rw [rules_after]
  exact RuleBook.sound_empty.after _

/-! ## What plugins offer -/

/-- The pairs that a hook gives: none when it is not there, fails, or gives something else. -/
def PluginForm.pairs : PluginForm → Option (Offer α) → List (Text × α)
  | .started, some (.pairs items) => items
  | _, _ => []

def Registered.keyOffers (p : Registered) : List (Text × ClassGiven) := p.form.pairs p.plugin.keys

def Registered.ruleOffers (p : Registered) : List (Text × Option ValueRule) :=
  p.form.pairs p.plugin.rules

namespace Host

/-- What the plugins offer, in the order of their registration. -/
def keyOffers (h : Host) : List (Text × ClassGiven) := h.plugins.flatMap Registered.keyOffers

def ruleOffers (h : Host) : List (Text × Option ValueRule) :=
  h.plugins.flatMap Registered.ruleOffers

namespace Load

/-! ## Plugins that are applied -/

/-- The second state has taken the offers, and remembers those that were accepted. -/
structure Applied (s s' : Load) (offeredKeys : List (Text × ClassGiven))
    (offeredRules : List (Text × Option ValueRule)) : Prop where
  vocabulary : s'.registry.vocabulary = takeAll Vocabulary.addItem s.registry.vocabulary offeredKeys
  rules : s'.registry.rules = takeAll RuleBook.addItem s.registry.rules offeredRules
  plugins : s'.host.plugins = s.host.plugins
  addedKeys : s'.host.addedKeys =
    s.host.addedKeys ++ (accepted Vocabulary.addItem s.registry.vocabulary offeredKeys).map Prod.fst
  addedRules : s'.host.addedRules =
    s.host.addedRules ++ (accepted RuleBook.addItem s.registry.rules offeredRules).map Prod.fst

/-- The log aside, nothing has changed. -/
theorem Applied.of_eq (hregistry : s'.registry = s.registry) (hhost : s'.host = s.host) :
    Applied s s' [] [] := by
  constructor <;> simp [hregistry, hhost, takeAll, accepted]

theorem Applied.refl (s : Load) : Applied s s [] [] := .of_eq rfl rfl

theorem Applied.trans (h : Applied s s' keys rules) (h' : Applied s' s'' keys' rules') :
    Applied s s'' (keys ++ keys') (rules ++ rules') := by
  constructor
  · rw [h'.vocabulary, h.vocabulary, takeAll_append]
  · rw [h'.rules, h.rules, takeAll_append]
  · exact h'.plugins.trans h.plugins
  · rw [h'.addedKeys, h.addedKeys, h.vocabulary, accepted_append, List.map_append,
      List.append_assoc]
  · rw [h'.addedRules, h.addedRules, h.rules, accepted_append, List.map_append, List.append_assoc]

theorem applied_addKey (plugin : Text) (s : Load) (item : Text × ClassGiven) :
    Applied s (addKey plugin s item) [item] [] := by
  cases hadd : s.registry.vocabulary.addKey item.1 item.2 with
  | ok v =>
    have hitem : s.registry.vocabulary.addItem item = .ok v := hadd
    rw [addKey, hadd]
    constructor <;> simp [takeAll, take_of_ok hitem, accepted, hitem]
  | error e =>
    have hitem : s.registry.vocabulary.addItem item = .error e := hadd
    rw [addKey, hadd]
    constructor <;> simp [takeAll, take_of_refused hitem, accepted, hitem, skip, warn]

theorem applied_addRule (plugin : Text) (s : Load) (item : Text × Option ValueRule) :
    Applied s (addRule plugin s item) [] [item] := by
  cases hadd : s.registry.rules.addRule item.1 item.2 with
  | ok b =>
    have hitem : s.registry.rules.addItem item = .ok b := hadd
    rw [addRule, hadd]
    constructor <;> simp [takeAll, take_of_ok hitem, accepted, hitem]
  | error e =>
    have hitem : s.registry.rules.addItem item = .error e := hadd
    rw [addRule, hadd]
    constructor <;> simp [takeAll, take_of_refused hitem, accepted, hitem, skip, warn]

theorem applied_keys (plugin : Text) (items : List (Text × ClassGiven)) (s : Load) :
    Applied s (items.foldl (addKey plugin) s) items [] := by
  induction items generalizing s with
  | nil => exact .refl s
  | cons item items ih => exact (applied_addKey plugin s item).trans (ih _)

theorem applied_rules (plugin : Text) (items : List (Text × Option ValueRule)) (s : Load) :
    Applied s (items.foldl (addRule plugin) s) [] items := by
  induction items generalizing s with
  | nil => exact .refl s
  | cons item items ih => exact (applied_addRule plugin s item).trans (ih _)

/-- Asking a hook changes nothing but the log. -/
theorem exists_offered (s : Load) (plugin : Text) (form : PluginForm) (hook : Text)
    (offer : Option (Offer α)) :
    ∃ s', s.offered plugin form hook offer = (s', form.pairs offer) ∧ Applied s s' [] [] := by
  cases form with
  | dormant =>
    cases offer with
    | none => exact ⟨s, rfl, .refl s⟩
    | some offer => exact ⟨_, rfl, .of_eq rfl rfl⟩
  | started =>
    cases offer with
    | none => exact ⟨s, rfl, .refl s⟩
    | some offer =>
      cases offer with
      | nothing => exact ⟨s, rfl, .refl s⟩
      | unusable => exact ⟨_, rfl, .of_eq rfl rfl⟩
      | fails => exact ⟨_, rfl, .of_eq rfl rfl⟩
      | pairs items => exact ⟨s, rfl, .refl s⟩

theorem applied_apply (s : Load) (p : Registered) :
    Applied s (s.apply p) p.keyOffers p.ruleOffers := by
  obtain ⟨s₁, hkeys, h₁⟩ := exists_offered s p.name p.form "register_tag_keys" p.plugin.keys
  have h₂ := applied_keys p.name (p.form.pairs p.plugin.keys) s₁
  obtain ⟨s₃, hrules, h₃⟩ :=
    exists_offered ((p.form.pairs p.plugin.keys).foldl (addKey p.name) s₁) p.name p.form
    "register_value_rules" p.plugin.rules
  have h₄ := applied_rules p.name (p.form.pairs p.plugin.rules) s₃
  simp only [apply, hkeys, hrules]
  simpa [Registered.keyOffers, Registered.ruleOffers] using ((h₁.trans h₂).trans h₃).trans h₄

theorem applied_plugins (ps : List Registered) (s : Load) :
    Applied s (ps.foldl apply s) (ps.flatMap Registered.keyOffers)
      (ps.flatMap Registered.ruleOffers) := by
  induction ps generalizing s with
  | nil => exact .refl s
  | cons p ps ih => exact (applied_apply s p).trans (ih _)

/-! ## Plugins that are started and found -/

/-- Only plugins have come or gone. -/
structure Untouched (s s' : Load) : Prop where
  registry : s'.registry = s.registry
  addedKeys : s'.host.addedKeys = s.host.addedKeys
  addedRules : s'.host.addedRules = s.host.addedRules

theorem Untouched.refl (s : Load) : Untouched s s := ⟨rfl, rfl, rfl⟩

theorem Untouched.trans (h : Untouched s s') (h' : Untouched s' s'') : Untouched s s'' :=
  ⟨h'.registry.trans h.registry, h'.addedKeys.trans h.addedKeys, h'.addedRules.trans h.addedRules⟩

theorem Untouched.foldl {f : Load → α → Load} (hf : ∀ s x, Untouched s (f s x)) (xs : List α)
    (s : Load) :
    Untouched s (xs.foldl f s) := by
  induction xs generalizing s with
  | nil => exact .refl s
  | cons x xs ih => exact (hf s x).trans (ih _)

theorem untouched_start (s : Load) (p : Registered) : Untouched s (s.start p) := by
  rw [start]
  split
  · exact .refl s
  · split
    · exact ⟨rfl, rfl, rfl⟩
    · exact ⟨rfl, rfl, rfl⟩

theorem untouched_addLocalFile (s : Load) (file : LocalFile) :
    Untouched s (s.addLocalFile file) := by
  rw [addLocalFile]
  split
  · exact .refl s
  · split
    · exact ⟨rfl, rfl, rfl⟩
    · refine Untouched.foldl (fun s c => ?_) _ s
      rw [addLocalClass]
      split
      · exact .refl s
      · split
        · exact ⟨rfl, rfl, rfl⟩
        · exact ⟨rfl, rfl, rfl⟩

end Load

/-- Loading offers what the plugins have that are there in the end. -/
theorem exists_load_applied (h : Host) (r : Registry) (locals : List LocalFile) :
    ∃ s : Load, Load.Untouched { host := h, registry := r } s ∧
      Load.Applied s (h.load r locals) (h.load r locals).host.keyOffers
        (h.load r locals).host.ruleOffers := by
  let s : Load :=
    locals.foldl Load.addLocalFile (h.plugins.foldl Load.start { host := h, registry := r })
  have hstarted := Load.Untouched.foldl Load.untouched_start h.plugins { host := h, registry := r }
  have hfound := Load.Untouched.foldl Load.untouched_addLocalFile locals
    (h.plugins.foldl Load.start { host := h, registry := r })
  have happlied := Load.applied_plugins s.host.plugins s
  have hplugins : (h.load r locals).host.plugins = s.host.plugins := happlied.plugins
  refine ⟨s, hstarted.trans hfound, ?_⟩
  rw [keyOffers, ruleOffers, hplugins]
  exact ⟨happlied.vocabulary, happlied.rules, happlied.plugins, happlied.addedKeys,
    happlied.addedRules⟩

theorem load_vocabulary (h : Host) (r : Registry) (locals : List LocalFile) :
    (h.load r locals).registry.vocabulary
    = takeAll Vocabulary.addItem r.vocabulary (h.load r locals).host.keyOffers := by
  obtain ⟨s, huntouched, happlied⟩ := exists_load_applied h r locals
  rw [happlied.vocabulary, huntouched.registry]

theorem load_rules (h : Host) (r : Registry) (locals : List LocalFile) :
    (h.load r locals).registry.rules
    = takeAll RuleBook.addItem r.rules (h.load r locals).host.ruleOffers := by
  obtain ⟨s, huntouched, happlied⟩ := exists_load_applied h r locals
  rw [happlied.rules, huntouched.registry]

theorem load_addedKeys (h : Host) (r : Registry) (locals : List LocalFile) :
    (h.load r locals).host.addedKeys
    = h.addedKeys ++ (accepted Vocabulary.addItem r.vocabulary (h.load r locals).host.keyOffers).map
      Prod.fst := by
  obtain ⟨s, huntouched, happlied⟩ := exists_load_applied h r locals
  rw [happlied.addedKeys, huntouched.registry, huntouched.addedKeys]

theorem load_addedRules (h : Host) (r : Registry) (locals : List LocalFile) :
    (h.load r locals).host.addedRules
    = h.addedRules ++ (accepted RuleBook.addItem r.rules (h.load r locals).host.ruleOffers).map
      Prod.fst := by
  obtain ⟨s, huntouched, happlied⟩ := exists_load_applied h r locals
  rw [happlied.addedRules, huntouched.registry, huntouched.addedRules]

end Host
end TagLint
