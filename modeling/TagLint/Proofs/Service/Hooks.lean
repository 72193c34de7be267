import TagLint.Proofs.Plugin.Listening
import TagLint.Proofs.Service.Shares

/-! Linting with hooks and without: the hooks are told what a document has, one that fails adds a
warning, and nothing else depends on them. -/
namespace TagLint
open Text

variable {s : Service} {tree : FileTree} {asked : Option Text} {file : Path} {files : List Path}
  {h : Host} {locals : List LocalFile} {path : Text} {errors warnings : Nat} {ds : List Diagnostic}
  {e : LintEvent}

/-- Whether a call of the plugin's hook fails. That of a class always does. -/
def Registered.failsOn (p : Registered) (path : Text) (errors warnings : Nat) : Bool :=
  match p.plugin.postLint, p.form with
  | none, _ => false
  | some _, .dormant => true
  | some hook, .started => hook.failsOn path errors warnings

/-- The same outcome with other warnings. -/
def Outcome.warning (o : Outcome) (warnings : List Text) : Outcome := { o with warnings }

namespace Host

theorem isSome_callAll (path : Text) (errors warnings : Nat) (ps : List Registered) :
    (callAll path errors warnings ps).2.isSome = ps.any (·.failsOn path errors warnings) := by
  induction ps with
  | nil => rfl
  | cons p ps ih =>
    rw [List.any_cons, Registered.failsOn, callAll]
    cases p.plugin.postLint with
    | none => exact ih
    | some hook =>
      cases p.form with
      | dormant => rfl
      | started => cases hfails : hook.failsOn path errors warnings <;> simp [hfails, ih]

theorem told_of_mem_callAll {ps : List Registered} (he : e ∈ (callAll path errors warnings ps).1) :
    e.path = path ∧ e.errors = errors ∧ e.warnings = warnings := by
  induction ps with
  | nil => cases he
  | cons p ps ih =>
    rw [callAll] at he
    split at he
    · exact ih he
    · cases he
    · dsimp only at he
      split at he
      · obtain rfl := List.mem_singleton.mp he
        exact ⟨rfl, rfl, rfl⟩
      · rcases List.mem_cons.mp he with rfl | he
        · exact ⟨rfl, rfl, rfl⟩
        · exact ih he

/-- The calls of hooks for a document. -/
def calls (h : Host) (path : Text) (ds : List Diagnostic) : List LintEvent :=
  (h.postLint path (Service.errorsIn ds) (ds.length - Service.errorsIn ds)).1

/-- One warning when some hook fails on the document. -/
def complaints (h : Host) (path : Text) (ds : List Diagnostic) : List Text :=
  if h.plugins.any (·.failsOn path (Service.errorsIn ds) (ds.length - Service.errorsIn ds)) then
    ["Plugin hook post_lint failed".toList]
  else []

/-- What is counted for a hook are the diagnostics of the document, errors and others. -/
structure Told (path : Text) (ds : List Diagnostic) (e : LintEvent) : Prop where
  path : e.path = path
  errors : e.errors = ds.countP (·.severity = .error)
  sum : e.errors + e.warnings = ds.length

theorem told_of_mem_calls (he : e ∈ h.calls path ds) : Told path ds e := by
  obtain ⟨hpath, herrors, hwarnings⟩ := told_of_mem_callAll he
  have hle : Service.errorsIn ds ≤ ds.length := List.countP_le_length
  exact ⟨hpath, herrors, by omega⟩

end Host

namespace Service

theorem afterLint_of_host (hs : s.host = some h) (path : Text) (ds : List Diagnostic) :
    s.afterLint path ds = (h.calls path ds, h.complaints path ds) := by
  simp only [afterLint, hs, Host.postLint, Host.isSome_callAll, List.any_reverse]
  rfl

/-- The service without hooks. -/
def unheard (s : Service) : Service := { s with host := none }

theorem afterLint_unheard (s : Service) (path : Text) (ds : List Diagnostic) :
    s.unheard.afterLint path ds = ([], []) := rfl

theorem withSpan_warning (s : Service) (span : Span) (o : Outcome) (warnings : List Text) :
    s.withSpan span (o.warning warnings) = (s.unheard.withSpan span o).warning warnings := by
  change (if s.tracing then _ else _) = (if s.tracing then _ else _ : Outcome).warning warnings
  split <;> rfl

/-! ## One text -/

theorem lintText_of_host (hs : s.host = some h) (text path : Text) (cap : Option Int)
    (asked : Option Text) :
    let kept := s.keptUpTo (s.limit cap) asked text
    s.lintText text path cap asked = (s.unheard.lintText text path cap asked).map fun (o, _) =>
      (o.warning (o.warnings ++ h.complaints path kept), h.calls path kept) := by
  intro kept
  cases hf : s.floor asked with
  | error e =>
    have hunheard : s.unheard.floor asked = .error e := hf
    rw [lintText, lintText, hf, hunheard]
    rfl
  | ok f =>
    have hunheard : s.unheard.floor asked = .ok f := hf
    rw [lintText_eq hf, lintText_eq hunheard, afterLint_of_host hs, afterLint_unheard]
    simp only [Except.map, withSpan_warnings]
    exact congrArg (fun o => Except.ok (o, h.calls path kept))
      (withSpan_warning s _ (LintSummary.outcome _ []) _)

/-! ## Many files -/

/-- The same progress, with other warnings and calls. -/
def Progress.telling (p : Progress) (warnings : List Text) (events : List LintEvent) : Progress :=
  { p with warnings, events }

theorem addFile_telling (s : Service) (tree : FileTree) (n : Int) (asked : Option Text)
    (file : Path) (p : Progress) (warnings : List Text) (events : List LintEvent) :
    s.addFile tree n asked (p.telling warnings events) file
      = (s.unheard.addFile tree n asked p file).map
        (·.telling (warnings ++ (s.share tree asked file).warnings)
          (events ++ (s.share tree asked file).events)) := by
  cases hread : tree.read file file.toText with
  | error e =>
    simp only [addFile, hread, share]
    simp [Except.map, pure, Except.pure, Progress.telling]
  | ok text =>
    cases hf : s.floor asked with
    | error e =>
      have hunheard : s.unheard.floor asked = .error e := hf
      simp only [addFile, hread, hf, hunheard]
      rfl
    | ok f =>
      have hunheard : s.unheard.floor asked = .ok f := hf
      simp only [addFile, hread, hf, hunheard, share, keptOf_eq hf]
      rfl

theorem addFiles_telling (s : Service) (tree : FileTree) (n : Int) (asked : Option Text)
    (files : List Path) (p : Progress) (warnings : List Text) (events : List LintEvent) :
    s.addFiles tree n asked (p.telling warnings events) files
      = (s.unheard.addFiles tree n asked p files).map
        (·.telling (warnings ++ files.flatMap fun file => (s.share tree asked file).warnings)
          (events ++ files.flatMap fun file => (s.share tree asked file).events)) := by
  induction files generalizing p warnings events with
  | nil => simp [addFiles, Except.map]
  | cons file files ih =>
    rw [addFiles, addFiles, addFile_telling]
    cases hstep : s.unheard.addFile tree n asked p file with
    | error e => rfl
    | ok p' =>
      refine (ih p' _ _).trans ?_
      simp [List.append_assoc]
      rfl

/-- What a file adds to the warnings. -/
def fileWarnings (s : Service) (h : Host) (tree : FileTree) (asked : Option Text) (file : Path) :
    List Text :=
  match tree.read file file.toText with
  | .error e => ["Failed to read " ++ file.toText ++ ": " ++ e.message]
  | .ok text => h.complaints file.toText (s.keptOf asked text)

/-- The calls of hooks for a file. -/
def fileCalls (s : Service) (h : Host) (tree : FileTree) (asked : Option Text) (file : Path) :
    List LintEvent :=
  match tree.read file file.toText with
  | .error _ => []
  | .ok text => h.calls file.toText (s.keptOf asked text)

theorem share_of_host (hs : s.host = some h) (tree : FileTree) (asked : Option Text) (file : Path) :
    (s.share tree asked file).warnings = s.fileWarnings h tree asked file ∧
    (s.share tree asked file).events = s.fileCalls h tree asked file := by
  rw [share, fileWarnings, fileCalls]
  cases tree.read file file.toText with
  | error e => exact ⟨rfl, rfl⟩
  | ok text => simp only [afterLint_of_host hs, and_self]

theorem share_unheard (s : Service) (tree : FileTree) (asked : Option Text) (file : Path) :
    (s.unheard.share tree asked file).warnings = (tree.readWarning? file).toList ∧
    (s.unheard.share tree asked file).events = [] := by
  rw [share, FileTree.readWarning?]
  cases tree.read file file.toText with
  | error e => exact ⟨rfl, rfl⟩
  | ok text => exact ⟨rfl, rfl⟩

/-- What each file adds to the warnings stands in its place. -/
theorem lintPaths_telling (s : Service) (tree : FileTree) (paths : List Text) (cap : Option Int)
    (asked : Option Text) :
    let files := s.collected tree paths
    s.lintPaths tree paths cap asked = (s.unheard.lintPaths tree paths cap asked).map fun (o, _) =>
      (o.warning ((s.started tree paths).warnings ++ files.flatMap fun file =>
        (s.share tree asked file).warnings),
        files.flatMap fun file => (s.share tree asked file).events) := by
  intro files
  by_cases hfiles : files = []
  · have halone : s.unheard.collected tree paths = [] := hfiles
    rw [lintPaths_of_nil hfiles, lintPaths_of_nil halone]
    simp only [Except.map, hfiles, List.flatMap_nil, List.append_nil]
    exact congrArg (fun o => Except.ok (o, []))
      (withSpan_warning s _ (.failure _ _ _ (s.started tree paths).warnings _) _)
  · have halone : s.unheard.collected tree paths ≠ [] := hfiles
    have hrun : s.addFiles tree (s.limit cap) asked (s.started tree paths) files = _ :=
      addFiles_telling s tree (s.limit cap) asked files (s.started tree paths)
        (s.started tree paths).warnings []
    rw [lintPaths_of_ne_nil hfiles, lintPaths_of_ne_nil halone, hrun]
    change _ = ((s.unheard.addFiles tree (s.limit cap) asked (s.started tree paths) files).map
        _).map _
    cases s.unheard.addFiles tree (s.limit cap) asked (s.started tree paths) files with
    | error e => rfl
    | ok p =>
      simp only [Except.map, Progress.telling, List.nil_append]
      exact congrArg (fun o => Except.ok (o, _))
        (withSpan_warning s _ (p.summary.outcome p.warnings) _)

theorem lintPaths_of_host (hs : s.host = some h) (tree : FileTree) (paths : List Text)
    (cap : Option Int) (asked : Option Text) :
    let files := s.collected tree paths
    s.lintPaths tree paths cap asked = (s.unheard.lintPaths tree paths cap asked).map fun (o, _) =>
      (o.warning ((s.started tree paths).warnings ++ files.flatMap (s.fileWarnings h tree asked)),
        files.flatMap (s.fileCalls h tree asked)) := by
  intro files
  have hwarnings : (fun file => (s.share tree asked file).warnings) = s.fileWarnings h tree asked :=
    funext fun file => (share_of_host hs tree asked file).1
  have hcalls : (fun file => (s.share tree asked file).events) = s.fileCalls h tree asked :=
    funext fun file => (share_of_host hs tree asked file).2
  rw [lintPaths_telling, hwarnings, hcalls]

theorem warnings_lintPaths {paths : List Text} {cap : Option Int} {o : Outcome}
    {events : List LintEvent} (hrun : s.unheard.lintPaths tree paths cap asked = .ok (o, events)) :
    o.warnings = (s.started tree paths).warnings ++ (s.collected tree paths).filterMap
      tree.readWarning? := by
  have hwarnings : (fun file => (s.unheard.share tree asked file).warnings)
      = fun file => (tree.readWarning? file).toList :=
    funext fun file => (share_unheard s tree asked file).1
  have hself : s.unheard.unheard = s.unheard := rfl
  have hagain := lintPaths_telling s.unheard tree paths cap asked
  rw [hself, hrun, hwarnings] at hagain
  have ho := congrArg (·.1.warnings) (Except.ok.inj hagain)
  refine ho.trans ?_
  rw [List.filterMap_eq_flatMap_toList]
  rfl

/-! ## Plugins that only listen -/

theorem told_of_mem_fileCalls {text : Text} (hread : tree.read file file.toText = .ok text)
    (he : e ∈ s.fileCalls h tree asked file) : Host.Told file.toText (s.keptOf asked text) e := by
  rw [fileCalls, hread] at he
  exact Host.told_of_mem_calls he

/-- Plugins that only listen, started or not, change neither the registry nor what a text or a file
tree gives: the outcome is the one without plugins, but for one warning for each linted document on
which a hook fails, which stands where the document has its turn among the files. The hooks are told
how many errors and other diagnostics pass the floor and the cap of the document. -/
theorem lint_of_onlyListens (s : Service) (hh : h.OnlyListens)
    (hlocals : ∀ f ∈ locals, f.OnlyListens) :
    let l := h.load s.registry locals
    l.registry = s.registry ∧ ∀ host ∈ [h, l.host],
      let heard : Service := { s with registry := l.registry, host := some host }
      (∀ text path cap asked,
        let kept := s.keptUpTo (s.limit cap) asked text
        heard.lintText text path cap asked
          = ((s.unheard.lintText text path cap asked).map fun (o, _) =>
              (o.warning (o.warnings ++ host.complaints path kept), host.calls path kept)) ∧
        ∀ e ∈ host.calls path kept, Host.Told path kept e) ∧
      ∀ tree paths cap asked,
        let files := s.collected tree paths
        heard.lintPaths tree paths cap asked
          = ((s.unheard.lintPaths tree paths cap asked).map fun (o, _) =>
              (o.warning ((s.started tree paths).warnings
                ++ files.flatMap (s.fileWarnings host tree asked)),
              files.flatMap (s.fileCalls host tree asked))) ∧
        (∀ o events, s.unheard.lintPaths tree paths cap asked = .ok (o, events) →
          o.warnings = (s.started tree paths).warnings ++ files.filterMap tree.readWarning?) ∧
        ∀ file ∈ files, ∀ text, tree.read file file.toText = .ok text →
          ∀ e ∈ s.fileCalls host tree asked file,
            Host.Told file.toText (s.keptOf asked text) e := by
  intro l
  have hregistry : l.registry = s.registry := Host.registry_load hh hlocals s.registry
  refine ⟨hregistry, fun host _ => ?_⟩
  rw [hregistry]
  intro heard
  have hhost : heard.host = some host := rfl
  constructor
  · intro text path cap asked kept
    exact ⟨lintText_of_host hhost text path cap asked, fun e he => Host.told_of_mem_calls he⟩
  · intro tree paths cap asked files
    exact ⟨lintPaths_of_host hhost tree paths cap asked, fun o events hrun =>
      warnings_lintPaths hrun, fun file _ text hread e he => told_of_mem_fileCalls hread he⟩

/-- A class whose hook fails on one file. -/
def touchy : Host := { plugins := [
  ⟨"touchy", .dormant,
    { className := "Touchy", postLint := some ⟨fun path _ _ => path = "a.go".toList⟩ }⟩] }

/-- A file with a warning and an error on one field. -/
def emptyComment : FileTree :=
  single "type A struct \x7b\n N int \x60gorm:\"comment:;size:x\"\x60\n\x7d"

theorem exists_read_emptyComment : ∃ text, emptyComment.read onlyFile onlyFile.toText = .ok text ∧
    (({} : Service).document text).1.map (·.severity) = [.warning, .error] := by
  have hfound : (emptyComment.read onlyFile onlyFile.toText).toOption.map
      (fun text => (({} : Service).document text).1.map (·.severity))
        = some [.warning, .error] := by
    simp only [FileTree.read, emptyComment, stat_single]
    decide +kernel
  obtain ⟨text, htext, hseverities⟩ := Option.map_eq_some_iff.mp hfound
  refine ⟨text, ?_, hseverities⟩
  cases hread : emptyComment.read onlyFile onlyFile.toText with
  | error e => simp [hread, Except.toOption] at htext
  | ok text' => simpa [hread, Except.toOption] using htext

/-- Of a warning and an error, under the floor of errors, the hook is told of the error alone; it
fails, and the error is listed with a warning. -/
theorem lint_of_onlyListens_touchy :
    touchy.OnlyListens ∧ (∀ f ∈ ([] : List LocalFile), f.OnlyListens) ∧
    let l := touchy.load {} []
    let heard : Service := { registry := l.registry, host := some l.host }
    ∃ o e, heard.lintPaths emptyComment ["a.go".toList] none (some "error".toList) = .ok (o, [e]) ∧
    o.ok = true ∧
      o.warnings = ["Plugin hook post_lint failed".toList] ∧ e.path = "a.go".toList ∧ e.errors = 1 ∧
      e.warnings = 0 := by
  have hh : touchy.OnlyListens := by
    intro p hp
    obtain rfl := List.mem_singleton.mp hp
    exact ⟨rfl, rfl⟩
  have hlocals : ∀ f ∈ ([] : List LocalFile), f.OnlyListens := by simp
  refine ⟨hh, hlocals, ?_⟩
  intro l heard
  obtain ⟨-, hlint⟩ := lint_of_onlyListens {} hh hlocals
  obtain ⟨-, hpaths⟩ := hlint l.host (by simp [l])
  obtain ⟨hrun, -, htold⟩ := hpaths emptyComment ["a.go".toList] none (some "error".toList)
  obtain ⟨text, hread, hseverities⟩ := exists_read_emptyComment
  have hkept : (({} : Service).keptOf (some "error".toList) text).map (·.severity) = [.error] := by
    let reaches (v : Severity) : Bool := decide (Severity.error = .warning ∨ v = .error)
    have hall : ({} : Service).keptOf (some "error".toList) text
        = ((({} : Service).document text).1.filter (reaches ∘ (·.severity))).take 1000 := rfl
    rw [hall, List.map_take, ← List.filter_map, hseverities]
    rfl
  -- without the plugin the file is linted, and nothing is to be said beside its diagnostics
  have hf : ({} : Service).floor (some "error".toList) = .ok .error := rfl
  have hc : ({} : Service).lint.maxProblems = (1000 : Nat) := rfl
  have hstart : Shows 1000 [] (({} : Service).started emptyComment ["a.go".toList]).summary :=
    shows_nil 1000
  obtain ⟨p, hp, -⟩ :=
    addFiles_shows hf hc hstart emptyComment (({} : Service).collected emptyComment ["a.go".toList])
  have halone :
      ({} : Service).unheard.lintPaths emptyComment ["a.go".toList] none (some "error".toList)
      = _ :=
    lintPaths_of_addFiles (collected_single_ne_nil {} _) hp
  have hwarnings : ({} : Service).fileWarnings l.host emptyComment (some "error".toList) onlyFile
      = ["Plugin hook post_lint failed".toList] := by
    rw [fileWarnings, hread]
    rfl
  obtain ⟨e, hcalls⟩ :
      ∃ e, ({} : Service).fileCalls l.host emptyComment (some "error".toList) onlyFile = [e] := by
    rw [fileCalls, hread]
    exact ⟨_, rfl⟩
  have hfiles : ({} : Service).collected emptyComment ["a.go".toList] = [onlyFile] :=
    collected_single {} _
  have hwarned : (({} : Service).started emptyComment ["a.go".toList]).warnings = [] := by
    rw [started, emptyComment, collect_single]
    rfl
  rw [halone, hfiles, List.flatMap_singleton, List.flatMap_singleton, hwarnings, hcalls,
    hwarned] at hrun
  rw [hfiles] at htold
  obtain ⟨hpath, herrors, hsum⟩ :=
    htold onlyFile List.mem_cons_self text hread e (hcalls ▸ List.mem_cons_self)
  have hone : e.errors = 1 := by
    rw [herrors]
    exact List.countP_map.symm.trans (congrArg (List.countP fun v => decide (v = .error)) hkept)
  have htotal : e.errors + e.warnings = 1 :=
    hsum.trans ((List.length_map _).symm.trans (congrArg List.length hkept))
  exact ⟨_, e, hrun, withSpan_ok _ _ _, rfl, hpath, hone, by omega⟩

end Service
end TagLint
