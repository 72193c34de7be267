import TagLint.Proofs.Settings.Layers
import TagLint.Proofs.Render.Succeeds
import TagLint.Settings.Basic

/-! Every setting with its check and its default, and what one table must say for them all. -/
namespace TagLint
open Text Json

/-! ## The settings by name -/

/-- A switch at the top of a settings file. -/
inductive Flag where
  | jsonOutput
  | quiet
  | verbose
  | logJson
deriving DecidableEq, Repr

namespace Flag

def name : Flag → Text
  | jsonOutput => "json_output"
  | quiet => "quiet"
  | verbose => "verbose"
  | logJson => "log_json"

def value (s : Settings) : Flag → Bool
  | jsonOutput => s.jsonOutput
  | quiet => s.quiet
  | verbose => s.verbose
  | logJson => s.logJson

end Flag

/-- A key of one of the three sections. -/
inductive Key where
  | maxProblems
  | minSeverity
  | patterns
  | excludedDirs
  | source
  | relatedInformation
  | enabled
  | localDir
deriving DecidableEq, Repr

namespace Key

def all : List Key :=
  [maxProblems, minSeverity, patterns, excludedDirs, source, relatedInformation, enabled, localDir]

def group : Key → Text
  | maxProblems | minSeverity | patterns | excludedDirs => "lint"
  | source | relatedInformation => "report"
  | enabled | localDir => "plugins"

def name : Key → Text
  | maxProblems => "max_problems"
  | minSeverity => "min_severity"
  | patterns => "include"
  | excludedDirs => "exclude_dirs"
  | source => "source"
  | relatedInformation => "related_information"
  | enabled => "enabled"
  | localDir => "local_dir"

abbrev Value : Key → Type
  | maxProblems => Int
  | minSeverity => Severity
  | patterns | excludedDirs => List Text
  | source | localDir => Text
  | relatedInformation | enabled => Bool

def check (p : Package) : (k : Key) → Json → Checked k.Value
  | maxProblems => p.atLeast 1
  | minSeverity => p.oneOf [("warning".toList, .warning), ("error".toList, .error)]
  | patterns | excludedDirs => p.texts
  | source | localDir => p.text
  | relatedInformation | enabled => p.bool

def default : (k : Key) → k.Value
  | maxProblems => (1000 : Int)
  | minSeverity => Severity.warning
  | patterns => ["*.go".toList]
  | excludedDirs => ["vendor".toList, ".git".toList, "node_modules".toList]
  | source => "GORM Tool".toList
  | localDir => ".gormlint/plugins".toList
  | relatedInformation | enabled => true

def value (s : Settings) : (k : Key) → k.Value
  | maxProblems => s.sections.lint.maxProblems
  | minSeverity => s.sections.lint.minSeverity
  | patterns => s.sections.lint.patterns
  | excludedDirs => s.sections.lint.excludedDirs
  | source => s.sections.report.source
  | relatedInformation => s.sections.report.relatedInformation
  | enabled => s.sections.plugins.enabled
  | localDir => s.sections.plugins.localDir

def isList : Key → Bool
  | patterns | excludedDirs => true
  | maxProblems | minSeverity | source | relatedInformation | enabled | localDir => false

end Key

def groups : List Text := ["lint", "report", "plugins"]

theorem Key.group_mem (k : Key) : k.group ∈ groups := by
  cases k <;> decide

/-- What a settings file may say at its top, the sections apart. -/
def topNames : List Text :=
  ["project_root", "config_path", "json_output", "quiet", "verbose", "log_json"]

/-- The settings as environment variables spell them. -/
def declaredNames : VariableNames where
  start := "GORMLINT_"
  cut := "__"
  single := topNames
  sections := groups.map fun g =>
    (g, (Key.all.filter (·.group = g)).map fun k => (k.name, k.isList))

theorem declaredNames_eq : declaredNames = Settings.variableNames := by decide

theorem topNames_append_groups : topNames ++ groups = Settings.knownNames := by decide

variable {α β : Type} {p : Package} {check : Json → Checked α} {default a : α}
  {given : Option Json} {name key : Text} {pairs : Pairs} {s : Settings} {root : Path}
  {file : Option Path}

/-! ## Checks that succeed -/

open Settings

/-- No setting is a table. -/
theorem Key.check_dict_ne_ok (hp : p.Lawful) (k : Key) (sub : Pairs) (a : k.Value) :
    k.check p (.dict sub) ≠ .ok a := by
  cases k with
  | maxProblems => exact hp.atLeast_dict 1 sub a
  | minSeverity => exact hp.oneOf_dict _ sub a
  | patterns | excludedDirs => exact hp.texts_dict sub a
  | source | localDir => exact hp.text_dict sub a
  | relatedInformation | enabled => exact hp.bool_dict sub a

namespace Settings

/-- The keys of a section, none when it is not there. -/
def tableOf (name : Text) (pairs : Pairs) : Pairs :=
  match lookup? name pairs with
  | some (.dict sub) => sub
  | _ => []

theorem lookup?_tableOf : lookup? key (tableOf name pairs) = gives name key pairs := by
  rw [gives, tableOf]
  cases lookup? name pairs with
  | none => rfl
  | some v => cases v <;> rfl

/-- A section that is not there counts as an empty one. -/
theorem taken_object_iff (hp : p.Lawful) {title : Text} {checkPairs : Pairs → Checked α}
    (hdefault : checkPairs [] = .ok a ↔ a = default) :
    Taken (p.object title checkPairs) default (lookup? name pairs) a
      ↔ IsSection name pairs ∧ checkPairs (tableOf name pairs) = .ok a := by
  unfold Taken IsSection tableOf
  cases lookup? name pairs with
  | none => simp [hdefault]
  | some v =>
    simp only [hp.object]
    cases v <;> simp

end Settings

/-! ## What one table must say -/

namespace Package

variable (hp : p.Lawful)
include hp

theorem lintOptions_eq_ok_iff {o : LintOptions} :
    p.lintOptions pairs = .ok o
      ↔ Taken (Key.check p .maxProblems) 1000 (lookup? "max_problems".toList pairs) o.maxProblems
        ∧ Taken (Key.check p .minSeverity) .warning (lookup? "min_severity".toList pairs)
          o.minSeverity
        ∧ Taken p.texts ["*.go".toList] (lookup? "include".toList pairs) o.patterns
        ∧ Taken p.texts ["vendor".toList, ".git".toList, "node_modules".toList]
          (lookup? "exclude_dirs".toList pairs) o.excludedDirs := by
  simp only [← hp.field, ← hp.both]
  rw [lintOptions, Render.map_eq_ok_iff]
  constructor
  · rintro ⟨⟨n, sev, ps, ds⟩, h, rfl⟩
    exact h
  · exact fun h => ⟨_, h, rfl⟩

theorem reportOptions_eq_ok_iff {o : ReportOptions} :
    p.reportOptions pairs = .ok o
      ↔ Taken p.text "GORM Tool".toList (lookup? "source".toList pairs) o.source
        ∧ Taken p.bool true (lookup? "related_information".toList pairs) o.relatedInformation := by
  simp only [← hp.field, ← hp.both]
  rw [reportOptions, Render.map_eq_ok_iff]
  constructor
  · rintro ⟨⟨source, related⟩, h, rfl⟩
    exact h
  · exact fun h => ⟨_, h, rfl⟩

theorem pluginOptions_eq_ok_iff {o : PluginOptions} :
    p.pluginOptions pairs = .ok o
      ↔ Taken p.bool true (lookup? "enabled".toList pairs) o.enabled
        ∧ Taken p.text ".gormlint/plugins".toList (lookup? "local_dir".toList pairs)
          o.localDir := by
  simp only [← hp.field, ← hp.both]
  rw [pluginOptions, Render.map_eq_ok_iff]
  constructor
  · rintro ⟨⟨enabled, dir⟩, h, rfl⟩
    exact h
  · exact fun h => ⟨_, h, rfl⟩

theorem lintOptions_nil {o : LintOptions} : p.lintOptions [] = .ok o ↔ o = {} := by
  rw [lintOptions_eq_ok_iff hp]
  obtain ⟨n, severity, patterns, excluded⟩ := o
  rw [LintOptions.mk.injEq]
  exact Iff.rfl

theorem reportOptions_nil {o : ReportOptions} : p.reportOptions [] = .ok o ↔ o = {} := by
  rw [reportOptions_eq_ok_iff hp]
  obtain ⟨source, related⟩ := o
  rw [ReportOptions.mk.injEq]
  exact Iff.rfl

theorem pluginOptions_nil {o : PluginOptions} : p.pluginOptions [] = .ok o ↔ o = {} := by
  rw [pluginOptions_eq_ok_iff hp]
  obtain ⟨enabled, dir⟩ := o
  rw [PluginOptions.mk.injEq]
  exact Iff.rfl

/-- The sections pass if each that is there is a table, and every key in it passes. -/
theorem sections_eq_ok_iff :
    p.sections pairs = .ok s.sections
      ↔ (∀ g ∈ groups, IsSection g pairs)
        ∧ ∀ k : Key, Taken (k.check p) k.default (gives k.group k.name pairs) (k.value s) := by
  have hfields : p.sections pairs = .ok s.sections
      ↔ p.field "lint" (p.object "LintConfig" p.lintOptions) {} pairs = .ok s.sections.lint
        ∧ p.field "report" (p.object "ReportConfig" p.reportOptions) {} pairs
          = .ok s.sections.report
        ∧ p.field "plugins" (p.object "PluginsConfig" p.pluginOptions) {} pairs
          = .ok s.sections.plugins := by
    simp only [← hp.both]
    rw [sections, Render.map_eq_ok_iff]
    constructor
    · rintro ⟨⟨lint, report, plugins⟩, h, heq⟩
      rw [← heq]
      exact h
    · exact fun h => ⟨_, h, rfl⟩
  rw [hfields, hp.field, hp.field, hp.field, taken_object_iff hp (lintOptions_nil hp),
    taken_object_iff hp (reportOptions_nil hp), taken_object_iff hp (pluginOptions_nil hp),
    lintOptions_eq_ok_iff hp, reportOptions_eq_ok_iff hp, pluginOptions_eq_ok_iff hp]
  simp only [lookup?_tableOf]
  constructor
  · rintro ⟨⟨hlint, hproblems, hseverity, hpatterns, hexcluded⟩, ⟨hreport, hsource, hrelated⟩,
      hplugins, henabled, hdir⟩
    constructor
    · simp only [groups, List.forall_mem_cons]
      exact ⟨hlint, hreport, hplugins, by simp⟩
    · intro k
      cases k with
      | maxProblems => exact hproblems
      | minSeverity => exact hseverity
      | patterns => exact hpatterns
      | excludedDirs => exact hexcluded
      | source => exact hsource
      | relatedInformation => exact hrelated
      | enabled => exact henabled
      | localDir => exact hdir
  · rintro ⟨hsections, hkeys⟩
    exact ⟨⟨hsections _ (by simp [groups]), hkeys .maxProblems, hkeys .minSeverity,
        hkeys .patterns, hkeys .excludedDirs⟩,
      ⟨hsections _ (by simp [groups]), hkeys .source, hkeys .relatedInformation⟩,
      hsections _ (by simp [groups]), hkeys .enabled, hkeys .localDir⟩

/-- A table gives settings if its switches, sections and keys pass their checks, and it has nothing
else. -/
theorem settings_eq_ok_iff :
    p.settings root file pairs = .ok s
      ↔ s.projectRoot = root ∧ s.configPath = file
        ∧ (∀ f : Flag, Taken p.bool false (lookup? f.name pairs) (f.value s))
        ∧ (∀ g ∈ groups, IsSection g pairs)
        ∧ (∀ k : Key, Taken (k.check p) k.default (gives k.group k.name pairs) (k.value s))
        ∧ ∀ key ∈ pairs.map Prod.fst, key ∈ topNames ++ groups := by
  rw [topNames_append_groups, settings, Render.map_eq_ok_iff]
  constructor
  · rintro ⟨⟨⟨j, q, v, l⟩, sections, u⟩, h, hs⟩
    obtain ⟨hflags, hrest⟩ := hp.both.mp h
    obtain ⟨hsections, hextras⟩ := hp.both.mp hrest
    simp only [hp.both, hp.field] at hflags
    obtain ⟨hjson, hquiet, hverbose, hlog⟩ := hflags
    subst hs
    obtain ⟨hgroups, hkeys⟩ :=
      (sections_eq_ok_iff hp (s := ⟨root, file, j, q, v, l, sections⟩)).mp hsections
    refine ⟨rfl, rfl, ?_, hgroups, hkeys, hp.onlyKnown.mp hextras⟩
    intro f
    cases f with
    | jsonOutput => exact hjson
    | quiet => exact hquiet
    | verbose => exact hverbose
    | logJson => exact hlog
  · rintro ⟨hroot, hfile, hflags, hgroups, hkeys, hknown⟩
    refine ⟨⟨⟨s.jsonOutput, s.quiet, s.verbose, s.logJson⟩, s.sections, ()⟩, ?_, ?_⟩
    · refine hp.both.mpr ⟨?_, hp.both.mpr
        ⟨(sections_eq_ok_iff hp).mpr ⟨hgroups, hkeys⟩, hp.onlyKnown.mpr hknown⟩⟩
      simp only [hp.both, hp.field]
      exact ⟨hflags .jsonOutput, hflags .quiet, hflags .verbose, hflags .logJson⟩
    · rw [← hroot, ← hfile]

end Package
end TagLint
