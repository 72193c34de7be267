import TagLint.Settings.Lax
import TagLint.Settings.Options

/-! The sections as they are declared. Keys that a section does not know are passed over. -/
namespace TagLint

namespace Package

def lintOptions (p : Package) (pairs : Json.Pairs) : Checked LintOptions :=
  let d : LintOptions := {}
  let severities := [(Severity.warning.name, .warning), (Severity.error.name, .error)]
  let problems := p.field "max_problems" (p.atLeast 1) d.maxProblems pairs
  let severity := p.field "min_severity" (p.oneOf severities) d.minSeverity pairs
  let patterns := p.field "include" p.texts d.patterns pairs
  let excluded := p.field "exclude_dirs" p.texts d.excludedDirs pairs
  (p.both problems (p.both severity (p.both patterns excluded))).map fun (n, s, ps, ds) =>
    ⟨n, s, ps, ds⟩

def reportOptions (p : Package) (pairs : Json.Pairs) : Checked ReportOptions :=
  let d : ReportOptions := {}
  let source := p.field "source" p.text d.source pairs
  let related := p.field "related_information" p.bool d.relatedInformation pairs
  (p.both source related).map fun (s, r) => ⟨s, r⟩

def pluginOptions (p : Package) (pairs : Json.Pairs) : Checked PluginOptions :=
  let d : PluginOptions := {}
  let enabled := p.field "enabled" p.bool d.enabled pairs
  let dir := p.field "local_dir" p.text d.localDir pairs
  (p.both enabled dir).map fun (e, l) => ⟨e, l⟩

end Package

namespace LintOptions

def ofJson : Json → Checked LintOptions :=
  Package.lax.object "LintConfig" Package.lax.lintOptions

def toJson (o : LintOptions) : Json :=
  .dict [("max_problems".toList, .int o.maxProblems),
    ("min_severity".toList, .text o.minSeverity.name), ("include".toList, .texts o.patterns),
    ("exclude_dirs".toList, .texts o.excludedDirs)]

end LintOptions

namespace ReportOptions

def ofJson : Json → Checked ReportOptions :=
  Package.lax.object "ReportConfig" Package.lax.reportOptions

def toJson (o : ReportOptions) : Json :=
  .dict [("source".toList, .text o.source),
    ("related_information".toList, .bool o.relatedInformation)]

end ReportOptions

def PluginOptions.toJson (o : PluginOptions) : Json :=
  .dict [("enabled".toList, .bool o.enabled), ("local_dir".toList, .text o.localDir)]

/-- The three sections of a settings file. -/
structure Sections where
  lint : LintOptions := {}
  report : ReportOptions := {}
  plugins : PluginOptions := {}
deriving DecidableEq, Repr, Inhabited

def Package.sections (p : Package) (pairs : Json.Pairs) : Checked Sections :=
  let lint := p.field "lint" (p.object "LintConfig" p.lintOptions) {} pairs
  let report := p.field "report" (p.object "ReportConfig" p.reportOptions) {} pairs
  let plugins := p.field "plugins" (p.object "PluginsConfig" p.pluginOptions) {} pairs
  (p.both lint (p.both report plugins)).map fun (l, r, p) => ⟨l, r, p⟩

def Sections.toPairs (s : Sections) : List (Text × Json) :=
  [("lint".toList, s.lint.toJson), ("report".toList, s.report.toJson),
    ("plugins".toList, s.plugins.toJson)]

end TagLint
