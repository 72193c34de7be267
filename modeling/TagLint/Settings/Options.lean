import TagLint.Diagnostic

/-! The options of each section, with their defaults. -/
namespace TagLint

structure LintOptions where
  maxProblems : Int := 1000
  minSeverity : Severity := .warning
  patterns : List Text := ["*.go".toList]
  excludedDirs : List Text := ["vendor".toList, ".git".toList, "node_modules".toList]
deriving DecidableEq, Repr, Inhabited

structure ReportOptions where
  source : Text := "GORM Tool"
  relatedInformation : Bool := true
deriving DecidableEq, Repr, Inhabited

structure PluginOptions where
  enabled : Bool := true
  localDir : Text := ".gormlint/plugins"
deriving DecidableEq, Repr, Inhabited

end TagLint
