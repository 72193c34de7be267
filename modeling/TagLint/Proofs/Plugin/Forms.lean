import TagLint.Proofs.Plugin.FirstCome

/-! Plugins that are registered as classes: loading them is loading instances that stand behind all
others. -/
namespace TagLint
open Text

variable {h : Host} {r : Registry} {s : Host.Load} {p : Registered} {ps before : List Registered}
  {locals : List LocalFile}

namespace Registered

def isInstance (p : Registered) : Bool := p.form = .started

/-- The plugin as it is registered when it is given as an instance. -/
def asInstance (p : Registered) : Registered := { p with form := .started }

/-- Its class can be started, and has a hook to be started for. -/
structure Starts (p : Registered) : Prop where
  hasHooks : p.plugin.hasHooks = true
  starts : p.plugin.failsToStart = false

/-- Instances in their places, and classes started behind them. -/
def inOrder (ps : List Registered) : List Registered :=
  ps.filter isInstance ++ (ps.filter (!·.isInstance)).map asInstance

/-- No class stands before an instance. -/
def ClassesLast (ps : List Registered) : Prop := ps.Pairwise fun p q => q.isInstance → p.isInstance

theorem asInstance_of_isInstance (hp : p.isInstance) : p.asInstance = p := by
  obtain ⟨name, form, plugin⟩ := p
  obtain rfl : form = .started := of_decide_eq_true hp
  rfl

@[simp] theorem name_asInstance (p : Registered) : p.asInstance.name = p.name := rfl

theorem map_name_asInstance (ps : List Registered) :
    (ps.map asInstance).map Registered.name = ps.map Registered.name :=
  List.map_map

theorem form_of_mem_map_asInstance (hp : p ∈ ps.map asInstance) : p.form = .started := by
  obtain ⟨q, -, rfl⟩ := List.mem_map.mp hp
  rfl

theorem form_of_mem_inOrder (hp : p ∈ inOrder ps) : p.form = .started := by
  rcases List.mem_append.mp hp with hp | hp
  · exact of_decide_eq_true (List.mem_filter.mp hp).2
  · exact form_of_mem_map_asInstance hp

theorem length_inOrder (ps : List Registered) : (inOrder ps).length = ps.length := by
  rw [inOrder, List.length_append, List.length_map, ← List.length_append]
  exact (List.filter_append_perm isInstance ps).length_eq

/-- Where no class stands before an instance, everything keeps its place. -/
theorem ClassesLast.inOrder_eq (hlast : ClassesLast ps) : inOrder ps = ps.map asInstance := by
  induction ps with
  | nil => rfl
  | cons p ps ih =>
    obtain ⟨hp, hps⟩ := List.pairwise_cons.mp hlast
    cases hform : p.isInstance with
    | true => simpa [inOrder, hform, asInstance_of_isInstance hform] using ih hps
    | false =>
      have hclasses : ∀ q ∈ ps, q.isInstance = false := by
        intro q hq
        simpa [hform] using hp q hq
      have hnone : ps.filter isInstance = [] := by simpa using hclasses
      have hall : ps.filter (!·.isInstance) = ps := by simpa using hclasses
      simp [inOrder, hform, hnone, hall]

/-- Under different names, a class that leaves its place is seen to do so. -/
theorem classesLast_of_names (hnodup : (ps.map Registered.name).Nodup)
    (hnames : (inOrder ps).map Registered.name = ps.map Registered.name) : ClassesLast ps := by
  induction ps with
  | nil => exact .nil
  | cons p ps ih =>
    obtain ⟨hp, hnodup⟩ := List.nodup_cons.mp hnodup
    cases hform : p.isInstance with
    | true =>
      refine .cons (fun _ _ _ => hform) (ih hnodup ?_)
      simpa [inOrder, hform] using hnames
    | false =>
      cases hfirst : ps.filter isInstance with
      | nil =>
        have hclasses : ∀ q ∈ ps, q.isInstance = false := by simpa using hfirst
        refine .cons ?_ (ih hnodup ?_)
        · intro q hq hinstance
          simp [hclasses q hq] at hinstance
        · simpa [inOrder, hform, hfirst] using hnames
      | cons q rest =>
        have hq : q ∈ ps := (List.mem_filter.mp (hfirst ▸ List.mem_cons_self)).1
        have hhead : q.name = p.name := by
          have := congrArg List.head? hnames
          simpa [inOrder, hform, hfirst] using this
        exact absurd (hhead ▸ List.mem_map_of_mem hq) hp

end Registered

open Registered

namespace Host

/-! ## The start -/

/-- The plugins when those before have been started: the others stand between their instances and
their classes. -/
def midway (before ps : List Registered) : List Registered :=
  before.filter isInstance ++ ps ++ (before.filter (!·.isInstance)).map asInstance

theorem midway_perm (before ps : List Registered) :
    ((midway before ps).map Registered.name).Perm ((before ++ ps).map Registered.name) := by
  have hseen :
      ((before.filter isInstance ++ (before.filter (!·.isInstance)).map asInstance).map
        Registered.name).Perm
      (before.map Registered.name) := by
    rw [List.map_append, map_name_asInstance, ← List.map_append]
    exact (List.filter_append_perm isInstance before).map _
  have hmoved : ((midway before ps).map Registered.name).Perm
      ((before.filter isInstance ++ (before.filter (!·.isInstance)).map asInstance ++ ps).map
        Registered.name) := by
    rw [midway, List.append_assoc, List.append_assoc]
    exact (List.perm_append_comm.append_left _).map _
  rw [List.map_append] at hmoved ⊢
  exact hmoved.trans (hseen.append_right _)

theorem start_of_class (hp : p.isInstance = false) (hstarts : p.Starts) :
    s.start p = (s.drop p.name).append p.asInstance := by
  have hform : p.form ≠ .started := of_decide_eq_false hp
  rw [Load.start, if_neg (by simp [hform, hstarts.hasHooks]), if_neg (by simp [hstarts.starts])]
  rfl

/-- One plugin has the name, and it is the one that goes. -/
theorem filter_name_ne {a b : List Registered}
    (hnodup : ((a ++ p :: b).map Registered.name).Nodup) :
    (a ++ p :: b).filter (·.name ≠ p.name) = a ++ b := by
  rw [List.map_append, List.map_cons, List.nodup_append] at hnodup
  obtain ⟨-, hrest, hdisjoint⟩ := hnodup
  have ha : ∀ q ∈ a, q.name ≠ p.name := fun q hq =>
    hdisjoint q.name (List.mem_map_of_mem hq) p.name List.mem_cons_self
  have hb : ∀ q ∈ b, q.name ≠ p.name := fun q hq heq =>
    (List.nodup_cons.mp hrest).1 (heq ▸ List.mem_map_of_mem hq)
  rw [List.filter_append, List.filter_cons_of_neg (by simp),
    List.filter_eq_self.mpr (by simpa using ha), List.filter_eq_self.mpr (by simpa using hb)]

/-- Starting goes through the plugins as they were registered; each class goes to the end when it is
its turn. -/
theorem foldl_start_of_starts (before : List Registered)
    (hnodup : ((before ++ ps).map Registered.name).Nodup)
    (hstarts : ∀ p ∈ ps, p.Starts) (hs : s.host.plugins = midway before ps) :
    ps.foldl Load.start s
      = { s with host := { s.host with plugins := inOrder (before ++ ps) } } := by
  induction ps generalizing before s with
  | nil =>
    rw [midway, List.append_nil] at hs
    rw [List.append_nil, inOrder, ← hs]
    rfl
  | cons p ps ih =>
    obtain ⟨hp, hps⟩ := List.forall_mem_cons.mp hstarts
    have hmove : before ++ p :: ps = before ++ [p] ++ ps := by simp
    cases hform : p.isInstance with
    | true =>
      rw [List.foldl_cons, start_of_started (of_decide_eq_true hform), hmove]
      refine ih (before ++ [p]) (hmove ▸ hnodup) hps ?_
      simp [hs, midway, hform]
    | false =>
      have hplaces : midway before (p :: ps) = before.filter isInstance ++
          p :: (ps ++ (before.filter (!·.isInstance)).map asInstance) := by simp [midway]
      have hnames := (midway_perm before (p :: ps)).nodup_iff.mpr hnodup
      rw [hplaces] at hs hnames
      have hmoved : ((s.drop p.name).append p.asInstance).host.plugins
          = midway (before ++ [p]) ps := by
        simp only [Load.append, Load.drop, hs, filter_name_ne hnames]
        simp [midway, hform]
      rw [List.foldl_cons, start_of_class hform hp, ih (before ++ [p]) (hmove ▸ hnodup) hps hmoved,
        hmove]
      rfl

/-! ## Loading -/

/-- To load plugins is to load instances, in the order in which the classes are started. -/
theorem load_inOrder (hnodup : h.names.Nodup) (hstarts : ∀ p ∈ h.plugins, p.Starts) (r : Registry)
    (locals : List LocalFile) :
    h.load r locals = { h with plugins := inOrder h.plugins }.load r locals := by
  let s : Load := { host := h, registry := r }
  have hrun : h.plugins.foldl Load.start s
      = { s with host := { h with plugins := inOrder h.plugins } } :=
    foldl_start_of_starts [] hnodup hstarts (by simp [midway, s])
  have hkept :
      (inOrder h.plugins).foldl Load.start
      { s with host := { h with plugins := inOrder h.plugins } }
      = { s with host := { h with plugins := inOrder h.plugins } } :=
        foldl_start fun _ => form_of_mem_inOrder
  rw [load, load, hrun, hkept]

theorem exists_plugins_foldl {α : Type} {step : Load → α → Load}
    (hstep : ∀ s x, ∃ found, (step s x).host.plugins = s.host.plugins ++ found) (xs : List α)
    (s : Load) :
    ∃ found, (xs.foldl step s).host.plugins = s.host.plugins ++ found := by
  induction xs generalizing s with
  | nil => exact ⟨[], (List.append_nil _).symm⟩
  | cons x xs ih =>
    obtain ⟨first, hfirst⟩ := hstep s x
    obtain ⟨rest, hrest⟩ := ih (step s x)
    exact ⟨first ++ rest, by rw [List.foldl_cons, hrest, hfirst, List.append_assoc]⟩

/-- Plugins from files stand behind the others. -/
theorem exists_plugins_addLocalFile (s : Load) (file : LocalFile) :
    ∃ found, (s.addLocalFile file).host.plugins = s.host.plugins ++ found := by
  have hsame : ∃ found, s.host.plugins = s.host.plugins ++ found := ⟨[], (List.append_nil _).symm⟩
  rw [Load.addLocalFile]
  split
  · exact hsame
  · split
    · exact hsame
    · refine exists_plugins_foldl (fun s c => ?_) _ s
      rw [Load.addLocalClass]
      split
      · exact ⟨[], (List.append_nil _).symm⟩
      · split
        · exact ⟨[], (List.append_nil _).symm⟩
        · exact ⟨_, rfl⟩

theorem exists_load_plugins (hps : ∀ p ∈ h.plugins, p.form = .started) (r : Registry)
    (locals : List LocalFile) :
    ∃ found, (h.load r locals).host.plugins = h.plugins ++ found := by
  obtain ⟨found, hfound⟩ :=
    exists_plugins_foldl exists_plugins_addLocalFile locals { host := h, registry := r }
  refine ⟨found, ?_⟩
  rw [load, foldl_start hps]
  exact (Load.applied_plugins _ _).plugins.trans hfound

/-- Plugins under different names, whose classes have hooks and can be started. However each of them
is registered, loading them is loading instances, with those that were classes behind the others: a
conflict is won by the plugin that stands first in that order. It is the order of registration if
and only if no class was registered before an instance, and then nothing tells the classes from
instances. -/
theorem load_forms (h : Host) (r : Registry) (locals : List LocalFile) (hnodup : h.names.Nodup)
    (hstarts : ∀ p ∈ h.plugins, p.Starts) :
    let instances : Host := { h with plugins := h.plugins.map asInstance }
    let s := h.load r locals
    s = { h with plugins := inOrder h.plugins }.load r locals ∧
    (∃ found, s.host.plugins = inOrder h.plugins ++ found ∧
      (∀ k, r.vocabulary.row? k = none → s.registry.vocabulary.classify k =
        (((inOrder h.plugins ++ found).flatMap Registered.keyOffers).findSome?
          (Vocabulary.asked? (foldKey k))).getD .unknown) ∧
      ∀ k, r.rules.get? k = none → s.registry.rules.get? k =
        ((inOrder h.plugins ++ found).flatMap Registered.ruleOffers).findSome?
          (RuleBook.offered? (lower k))) ∧
    (s.host.names = (instances.load r locals).host.names ↔ ClassesLast h.plugins) ∧
    (ClassesLast h.plugins → s = instances.load r locals) := by
  intro instances s
  have hload : s = { h with plugins := inOrder h.plugins }.load r locals :=
    load_inOrder hnodup hstarts r locals
  obtain ⟨found, hfound⟩ := exists_load_plugins (h := { h with plugins := inOrder h.plugins })
    (fun _ => form_of_mem_inOrder) r locals
  obtain ⟨found', hfound'⟩ :=
    exists_load_plugins (h := instances) (fun _ => form_of_mem_map_asInstance) r locals
  have hplugins : s.host.plugins = inOrder h.plugins ++ found := by
    rw [hload]
    exact hfound
  have hlast : ClassesLast h.plugins → s = instances.load r locals :=
    fun hlast => by rw [hload, hlast.inOrder_eq]
  refine ⟨hload, ⟨found, hplugins, ?_, ?_⟩, ⟨?_, fun hclasses => by rw [hlast hclasses]⟩, hlast⟩
  · intro k hrow
    rw [← hplugins]
    change (h.load r locals).registry.vocabulary.classify k = _
    rw [load_vocabulary, Vocabulary.classify_takeAll_of_none hrow]
    rfl
  · intro k hrule
    rw [← hplugins]
    change (h.load r locals).registry.rules.get? k = _
    rw [load_rules, RuleBook.get?_takeAll, hrule]
    rfl
  · intro hnames
    rw [names, names, hplugins, hfound', List.map_append, List.map_append,
      map_name_asInstance] at hnames
    exact classesLast_of_names hnodup
      (List.append_inj_left hnames (by rw [List.length_map, List.length_map, length_inOrder]))

/-- A class and an instance that offer one key, with another class each. -/
def classThenInstance : Host := { plugins := [
  ⟨"a", .dormant, { className := "A", keys := some (.pairs [("tenant", .known .caution)]) }⟩,
  ⟨"b", .started, { className := "B", keys := some (.pairs [("tenant", .known .deprecated)]) }⟩] }

theorem load_forms_classThenInstance :
    let s := classThenInstance.load {} []
    classThenInstance.names.Nodup ∧ (∀ p ∈ classThenInstance.plugins, p.Starts) ∧
    s = { classThenInstance with plugins := inOrder classThenInstance.plugins }.load {} [] ∧
    s.registry.vocabulary.classify "tenant" = .deprecated ∧
    s.host.names ≠
      ({ classThenInstance with plugins := classThenInstance.plugins.map asInstance }.load {}
        []).host.names := by
  intro s
  have hnodup : classThenInstance.names.Nodup := by decide
  have hstarts : ∀ p ∈ classThenInstance.plugins, p.Starts := by
    simp only [classThenInstance, List.forall_mem_cons]
    exact ⟨⟨rfl, rfl⟩, ⟨rfl, rfl⟩, by simp⟩
  obtain ⟨hload, ⟨found, -, hclass, -⟩, hnames, -⟩ :=
    load_forms classThenInstance {} [] hnodup hstarts
  refine ⟨hnodup, hstarts, hload, ?_, fun hsame => ?_⟩
  · have hfirst : ((inOrder classThenInstance.plugins).flatMap Registered.keyOffers).findSome?
        (Vocabulary.asked? (foldKey "tenant")) = some .deprecated := by decide +kernel
    rw [hclass "tenant" (by decide +kernel), List.flatMap_append, List.findSome?_append, hfirst]
    rfl
  · have hclasses := hnames.mp hsame
    simp only [classThenInstance, ClassesLast, List.pairwise_cons,
      List.forall_mem_singleton] at hclasses
    exact absurd (hclasses.1 rfl) (by decide)

/-- The instance goes before the class that was registered first, and its class is the one that
counts. As instances the two keep their places. -/
theorem class_gives_way :
    let instances : Host :=
      { classThenInstance with plugins := classThenInstance.plugins.map asInstance }
    (classThenInstance.load {} []).host.names = ["b".toList, "a".toList] ∧
    (classThenInstance.load {} []).registry.vocabulary.classify "tenant" = .deprecated ∧
    (instances.load {} []).host.names = ["a".toList, "b".toList] ∧
    (instances.load {} []).registry.vocabulary.classify "tenant" = .caution := by
  decide +kernel

end Host
end TagLint
