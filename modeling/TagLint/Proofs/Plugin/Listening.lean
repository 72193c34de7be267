import Mathlib.Data.List.Basic
import TagLint.Proofs.Plugin.Applied

/-! Plugins that only listen: their one hook is told about linted documents. Loading them leaves the
registry alone. -/
namespace TagLint

variable {h : Host} {l : Host.Load} {p : Registered} {locals : List LocalFile}

/-- The plugin has no hook but the one that is told about linted documents. -/
structure Plugin.OnlyListens (p : Plugin) : Prop where
  keys : p.keys = none
  rules : p.rules = none

def Host.OnlyListens (h : Host) : Prop := ∀ p ∈ h.plugins, p.plugin.OnlyListens

/-- The classes that the file defines itself are plugins that only listen. -/
def LocalFile.OnlyListens (f : LocalFile) : Prop :=
  ∀ items, f.content = .classes items → ∀ c ∈ items, c.imported = false → c.plugin.OnlyListens

namespace Host

theorem onlyListens_append (hl : l.host.OnlyListens) (hp : p.plugin.OnlyListens) :
    (l.append p).host.OnlyListens := by
  intro q hq
  rcases List.mem_append.mp hq with hq | hq
  · exact hl q hq
  · obtain rfl := List.mem_singleton.mp hq
    exact hp

theorem onlyListens_start (hl : l.host.OnlyListens) (hp : p.plugin.OnlyListens) :
    (l.start p).host.OnlyListens := by
  have hdrop : (l.drop p.name).host.OnlyListens := fun q hq => hl q (List.mem_filter.mp hq).1
  rw [Load.start]
  split
  · exact hl
  · split
    · exact hdrop
    · exact onlyListens_append hdrop hp

theorem mem_of_mem_classesInOrder {items : List PluginClass} {c : PluginClass}
    (hc : c ∈ Load.classesInOrder items) :
    c ∈ items := by
  let keep := fun (kept : List PluginClass) (c : PluginClass) =>
    if kept.any (·.binding = c.binding) then kept else c :: kept
  have hkept : ∀ d ∈ items.reverse.foldl keep [], d ∈ items := by
    refine List.foldlRecOn (motive := fun kept => ∀ d ∈ kept, d ∈ items) items.reverse keep
      (by simp) ?_
    intro kept hkept c hc d hd
    simp only [keep] at hd
    split at hd
    · exact hkept d hd
    · rcases List.mem_cons.mp hd with rfl | hd
      · exact List.mem_reverse.mp hc
      · exact hkept d hd
  exact hkept c (List.mem_mergeSort.mp hc)

theorem onlyListens_addLocalFile {f : LocalFile} (hl : l.host.OnlyListens) (hf : f.OnlyListens) :
    (l.addLocalFile f).host.OnlyListens := by
  rw [Load.addLocalFile]
  split
  · exact hl
  · split
    · exact hl
    · rename_i items hitems
      refine List.foldlRecOn (motive := fun l : Load => l.host.OnlyListens) _ _ hl ?_
      intro l hl c hc
      rw [Load.addLocalClass]
      split
      · exact hl
      · split
        · exact hl
        · rename_i hclass _
          refine onlyListens_append hl (hf items hitems c (mem_of_mem_classesInOrder hc) ?_)
          exact Bool.eq_false_iff.mpr fun himported => hclass (.inl himported)

theorem onlyListens_load (hh : h.OnlyListens) (hlocals : ∀ f ∈ locals, f.OnlyListens)
    (r : Registry) :
    (h.load r locals).host.OnlyListens := by
  let l : Load := { host := h, registry := r }
  have hstarted : (h.plugins.foldl Load.start l).host.OnlyListens :=
    List.foldlRecOn (motive := fun l : Load => l.host.OnlyListens) _ _ hh fun l hl p hp =>
      onlyListens_start hl (hh p hp)
  have hfound : (locals.foldl Load.addLocalFile (h.plugins.foldl Load.start l)).host.OnlyListens :=
    List.foldlRecOn (motive := fun l : Load => l.host.OnlyListens) _ _ hstarted fun l hl f hf =>
      onlyListens_addLocalFile hl (hlocals f hf)
  intro p hp
  exact hfound p ((Load.applied_plugins _ _).plugins ▸ hp)

/-- They have nothing to offer. -/
theorem offers_of_onlyListens (hh : h.OnlyListens) : h.keyOffers = [] ∧ h.ruleOffers = [] := by
  simp only [keyOffers, ruleOffers, List.flatMap_eq_nil_iff]
  constructor
  · intro p hp
    rw [Registered.keyOffers, (hh p hp).keys]
    cases p.form <;> rfl
  · intro p hp
    rw [Registered.ruleOffers, (hh p hp).rules]
    cases p.form <;> rfl

theorem registry_load (hh : h.OnlyListens) (hlocals : ∀ f ∈ locals, f.OnlyListens) (r : Registry) :
    (h.load r locals).registry = r := by
  obtain ⟨hkeys, hrules⟩ := offers_of_onlyListens (onlyListens_load hh hlocals r)
  have hvocabulary : (h.load r locals).registry.vocabulary = r.vocabulary := by
    rw [load_vocabulary, hkeys]
    rfl
  have hrulebook : (h.load r locals).registry.rules = r.rules := by
    rw [load_rules, hrules]
    rfl
  calc (h.load r locals).registry
    _ = ⟨(h.load r locals).registry.vocabulary, (h.load r locals).registry.rules⟩ := rfl
    _ = r := by rw [hvocabulary, hrulebook]

end Host
end TagLint
