import TagLint.Proofs.Command.Reader
import TagLint.Proofs.Settings.Keys
import TagLint.Command.Run

/-! The settings that the command line gives, as a table. -/
namespace TagLint
open Text Json Settings

variable {name key : Text} {g : Given} {sub : Pairs} {l : List (String × Option Json)}

/-- What the command line gives for a key of a section. -/
def Given.key? (g : Given) : Key → Option Json
  | .maxProblems => g.maxProblems
  | .minSeverity => g.minSeverity
  | .enabled => g.pluginsEnabled
  | .patterns | .excludedDirs | .source | .relatedInformation | .localDir => none

/-- What is given by name are switches, each once. -/
structure Given.SwitchesOnly (g : Given) : Prop where
  once : (g.others.map Prod.fst).Nodup
  known : ∀ name ∈ g.others.map Prod.fst, name ∈ flagNames
  scalar : ∀ p ∈ g.others, ∀ sub, p.2 ≠ .dict sub

namespace Settings

def lintPairs (g : Given) : Pairs :=
  present [("max_problems", g.maxProblems), ("min_severity", g.minSeverity)]

def pluginPairs (g : Given) : Pairs := present [("enabled", g.pluginsEnabled)]

/-- A section with its keys, left out when it has none. -/
def sectionOf (name : Text) (sub : Pairs) : Pairs :=
  if sub.isEmpty then [] else [(name, .dict sub)]

theorem pairs_eq :
    Given.pairs g = sectionOf "lint" (lintPairs g) ++ sectionOf "plugins" (pluginPairs g)
      ++ g.others := rfl

theorem mem_sectionOf {p : Text × Json} (h : p ∈ sectionOf name sub) : p = (name, .dict sub) := by
  unfold sectionOf at h
  split at h
  · cases h
  · exact List.mem_singleton.mp h

theorem keys_sectionOf_sublist : ((sectionOf name sub).map Prod.fst).Sublist [name] := by
  unfold sectionOf
  split
  · simp
  · simp

theorem present_key (p : String × Option Json) (q : Text × Json)
    (h : (match p with | (k, v) => v.map fun v => (k.toList, v)) = some q) : q.1 = p.1.toList := by
  obtain ⟨v, -, rfl⟩ := Option.map_eq_some_iff.mp h
  rfl

theorem keys_present_sublist : ((present l).map Prod.fst).Sublist (l.map (·.1.toList)) :=
  keys_filterMap_sublist present_key

theorem lookup?_present {p : String × Option Json} (hnodup : (l.map (·.1.toList)).Nodup)
    (hp : p ∈ l) :
    lookup? p.1.toList (present l) = p.2 := by
  refine (lookup?_filterMap present_key hnodup hp).trans ?_
  obtain ⟨k, v⟩ := p
  cases v <;> rfl

theorem gives_sectionOf :
    (lookup? name (sectionOf name sub)).bind (get? key) = lookup? key sub := by
  cases sub with
  | nil => rfl
  | cons p sub => simp [sectionOf, lookup?_cons, get?]

theorem lookup?_sectionOf_of_ne (h : name ≠ key) : lookup? key (sectionOf name sub) = none :=
  lookup?_eq_none_iff.mpr fun hmem =>
    h (List.mem_singleton.mp (keys_sectionOf_sublist.subset hmem)).symm

theorem lookup?_group (hg : g.SwitchesOnly) (hname : name ∈ groups) :
    lookup? name (Given.pairs g)
      = (lookup? name (sectionOf "lint" (lintPairs g))).or
        (lookup? name (sectionOf "plugins" (pluginPairs g))) := by
  have hothers : lookup? name g.others = none := by
    rw [lookup?_eq_none_iff]
    intro hmem
    have hdisjoint : ∀ name ∈ groups, name ∉ flagNames := by decide
    exact hdisjoint name hname (hg.known name hmem)
  rw [pairs_eq, lookup?_append, lookup?_append, hothers, Option.or_none]

theorem gives_lint (hg : g.SwitchesOnly) :
    gives "lint" key (Given.pairs g) = lookup? key (lintPairs g) := by
  have hne : "plugins".toList ≠ "lint".toList := by decide
  rw [gives, lookup?_group hg (by decide), lookup?_sectionOf_of_ne hne, Option.or_none,
    gives_sectionOf]

theorem gives_report (hg : g.SwitchesOnly) : gives "report" key (Given.pairs g) = none := by
  have hlint : "lint".toList ≠ "report".toList := by decide
  have hplugins : "plugins".toList ≠ "report".toList := by decide
  rw [gives, lookup?_group hg (by decide), lookup?_sectionOf_of_ne hlint,
    lookup?_sectionOf_of_ne hplugins]
  rfl

theorem gives_plugins (hg : g.SwitchesOnly) :
    gives "plugins" key (Given.pairs g) = lookup? key (pluginPairs g) := by
  have hne : "lint".toList ≠ "plugins".toList := by decide
  rw [gives, lookup?_group hg (by decide), lookup?_sectionOf_of_ne hne, Option.none_or,
    gives_sectionOf]

theorem nodup_lintNames (g : Given) :
    ([("max_problems", g.maxProblems), ("min_severity", g.minSeverity)].map
      (·.1.toList)).Nodup := by
  have hnames : ["max_problems".toList, "min_severity".toList].Nodup := by decide
  exact hnames

theorem lookup?_maxProblems (g : Given) :
    lookup? "max_problems".toList (lintPairs g) = g.maxProblems :=
  lookup?_present (p := ("max_problems", g.maxProblems)) (nodup_lintNames g) (by simp)

theorem lookup?_minSeverity (g : Given) :
    lookup? "min_severity".toList (lintPairs g) = g.minSeverity :=
  lookup?_present (p := ("min_severity", g.minSeverity)) (nodup_lintNames g) (by simp)

theorem lookup?_enabled (g : Given) : lookup? "enabled".toList (pluginPairs g) = g.pluginsEnabled :=
  lookup?_present (p := ("enabled", g.pluginsEnabled)) (by simp) (by simp)

/-- A key holds what the command line gives for it. -/
theorem gives_pairs (hg : g.SwitchesOnly) (k : Key) :
    gives k.group k.name (Given.pairs g) = g.key? k := by
  have hlint : ∀ key ∉ ["max_problems".toList, "min_severity".toList],
      lookup? key (lintPairs g) = none :=
    fun key hkey => lookup?_eq_none_iff.mpr fun hmem => hkey (keys_present_sublist.subset hmem)
  have hplugins : ∀ key ∉ ["enabled".toList], lookup? key (pluginPairs g) = none :=
    fun key hkey => lookup?_eq_none_iff.mpr fun hmem => hkey (keys_present_sublist.subset hmem)
  cases k with
  | maxProblems => exact (gives_lint hg).trans (lookup?_maxProblems g)
  | minSeverity => exact (gives_lint hg).trans (lookup?_minSeverity g)
  | patterns => exact (gives_lint hg).trans (hlint _ (by decide))
  | excludedDirs => exact (gives_lint hg).trans (hlint _ (by decide))
  | source => exact gives_report hg
  | relatedInformation => exact gives_report hg
  | enabled => exact (gives_plugins hg).trans (lookup?_enabled g)
  | localDir => exact (gives_plugins hg).trans (hplugins _ (by decide))

theorem isSection_pairs (hg : g.SwitchesOnly) :
    ∀ name ∈ groups, IsSection name (Given.pairs g) := by
  intro name hname v hv
  rw [lookup?_group hg hname, Option.or_eq_some_iff] at hv
  have htable : ∀ {other sub}, lookup? name (sectionOf other sub) = some v → ∃ sub,
      v = .dict sub := by
    intro other sub h
    exact ⟨sub, congrArg Prod.snd (mem_sectionOf (mem_of_lookup? h))⟩
  obtain hlint | ⟨-, hplugins⟩ := hv
  · exact htable hlint
  · exact htable hplugins

theorem lookup?_flag (f : Flag) : lookup? f.name (Given.pairs g) = lookup? f.name g.others := by
  have hlint : "lint".toList ≠ f.name := by cases f <;> decide
  have hplugins : "plugins".toList ≠ f.name := by cases f <;> decide
  rw [pairs_eq, lookup?_append, lookup?_append, lookup?_sectionOf_of_ne hlint,
    lookup?_sectionOf_of_ne hplugins]
  rfl

theorem keys_pairs_sublist :
    ((Given.pairs g).map Prod.fst).Sublist (["lint".toList, "plugins".toList]
      ++ g.others.map Prod.fst) := by
  rw [pairs_eq, List.map_append, List.map_append]
  exact (keys_sectionOf_sublist.append keys_sectionOf_sublist).append (.refl _)

theorem known_pairs (hg : g.SwitchesOnly) :
    ∀ key ∈ (Given.pairs g).map Prod.fst, key ∈ topNames ++ groups := by
  intro key hkey
  obtain hsection | hother := List.mem_append.mp (keys_pairs_sublist.subset hkey)
  · have hknown : ∀ key ∈ ["lint".toList, "plugins".toList], key ∈ groups := by decide
    exact List.mem_append_right _ (hknown key hsection)
  · have hknown : ∀ key ∈ flagNames, key ∈ topNames := by decide
    exact List.mem_append_left _ (hknown key (hg.known key hother))

theorem distinct_pairs (hg : g.SwitchesOnly) : Distinct (Given.pairs g) := by
  constructor
  · refine keys_pairs_sublist.nodup (List.nodup_append.mpr ⟨by decide, hg.once, ?_⟩)
    rintro name hname _ hother rfl
    have hdisjoint : ∀ name ∈ ["lint".toList, "plugins".toList], name ∉ flagNames := by decide
    exact hdisjoint name hname (hg.known name hother)
  · intro name sub hsub
    have hmem := mem_of_lookup? hsub
    rw [pairs_eq, List.mem_append, List.mem_append] at hmem
    obtain (hlint | hplugins) | hother := hmem
    · obtain rfl : sub = lintPairs g := Json.dict.inj (congrArg Prod.snd (mem_sectionOf hlint))
      exact keys_present_sublist.nodup (nodup_lintNames g)
    · obtain rfl : sub = pluginPairs g := Json.dict.inj (congrArg Prod.snd (mem_sectionOf hplugins))
      exact keys_present_sublist.nodup (by simp)
    · exact (hg.scalar _ hother sub rfl).elim

end Settings

/-! ## The options before the command -/

open Command

variable {r : Reader} {line : r.Line} {tree : FileTree} {args : List Text}

/-- The option for a switch. -/
def Flag.option : Flag → OptionName
  | jsonOutput => .json
  | quiet => .quiet
  | verbose => .verbose
  | logJson => .logJson

/-- What the option of a switch says, if it stands on the line. -/
def Flag.given? (r : Reader) (line : r.Line) (f : Flag) : Option Json :=
  if r.has line f.option then some (.bool true) else none

/-- What the option for a key says, if it stands on the line. -/
def Key.given? (r : Reader) (line : r.Line) : Key → Option Json
  | maxProblems => (r.whole? line .maxProblems).map .int
  | minSeverity => (r.text? line .minSeverity).map .text
  | enabled => (r.either? line .plugins .noPlugins).map .bool
  | patterns | excludedDirs | source | relatedInformation | localDir => none

/-- An option for the key stands on the line. -/
def Key.isGiven (r : Reader) (line : r.Line) : Key → Bool
  | maxProblems => r.has line .maxProblems
  | minSeverity => r.has line .minSeverity
  | enabled => r.has line .plugins || r.has line .noPlugins
  | patterns | excludedDirs | source | relatedInformation | localDir => false

theorem key?_givenOf (k : Key) : (givenOf r tree line).key? k = k.given? r line := by
  cases k <;> rfl

theorem switchesOnly_givenOf : (givenOf r tree line).SwitchesOnly where
  once := by
    have hnames : flagNames.Nodup := by decide
    exact hnames
  known name hname := hname
  scalar p hp sub := by
    simp only [givenOf, List.mem_cons, List.not_mem_nil, or_false] at hp
    rcases hp with rfl | rfl | rfl | rfl <;> exact Json.noConfusion

theorem lookup?_others (f : Flag) :
    lookup? f.name (givenOf r tree line).others = some (.bool (r.flag line f.option)) := by
  cases f <;> rfl

/-! ## Lines that were read -/

theorem reads_ofProgram (h : r.read tree OptionSpec.ofProgram false args = .ok (.run line)) :
    r.Reads OptionSpec.ofProgram line := ⟨by decide, tree, false, args, h⟩

variable (hr : r.Lawful) (h : r.Reads OptionSpec.ofProgram line)
include hr h

theorem Flag.flag_eq_has (f : Flag) : r.flag line f.option = r.has line f.option := by
  have hspec : ∀ f : Flag, ∃ spec ∈ OptionSpec.ofProgram, spec.name = f.option ∧
      spec.takes = none := by
    intro f
    cases f <;> decide
  obtain ⟨spec, hmem, hname, htakes⟩ := hspec f
  exact hname ▸ hr.flag h hmem htakes

theorem Key.isSome_given? (k : Key) : (k.given? r line).isSome = k.isGiven r line := by
  cases k with
  | maxProblems =>
    have hspec : OptionSpec.maxProblems ∈ OptionSpec.ofProgram := by decide
    rw [given?, isGiven, Option.isSome_map]
    exact hr.isSome_whole? h hspec rfl
  | minSeverity =>
    have hspec : OptionSpec.minSeverity ∈ OptionSpec.ofProgram := by decide
    rw [given?, isGiven, Option.isSome_map]
    exact hr.isSome_choice h hspec rfl
  | enabled =>
    have hon : OptionSpec.flag .plugins ["--plugins"] ∈ OptionSpec.ofProgram := by decide
    have hoff : OptionSpec.flag .noPlugins ["--no-plugins"] ∈ OptionSpec.ofProgram := by decide
    rw [given?, isGiven, Option.isSome_map]
    exact hr.isSome_either? h hon hoff rfl rfl
  | _ => rfl

/-- What an option says passes the check of its key. -/
theorem Key.exists_check_given? {p : Package} (hp : p.Lawful) (k : Key) {v : Json}
    (hv : k.given? r line = some v) : ∃ a, k.check p v = .ok a := by
  cases k with
  | maxProblems =>
    have hspec : OptionSpec.maxProblems ∈ OptionSpec.ofProgram := by decide
    obtain ⟨n, hn, rfl⟩ := Option.map_eq_some_iff.mp hv
    exact ⟨n, hp.atLeast_int (hr.positive h hspec rfl hn)⟩
  | minSeverity =>
    have hspec : OptionSpec.minSeverity ∈ OptionSpec.ofProgram := by decide
    obtain ⟨t, ht, rfl⟩ := Option.map_eq_some_iff.mp hv
    exact hp.exists_oneOf (hr.choice h hspec rfl ht)
  | enabled =>
    obtain ⟨b, -, rfl⟩ := Option.map_eq_some_iff.mp hv
    exact ⟨b, hp.bool_bool b⟩
  | _ => cases hv

end TagLint
