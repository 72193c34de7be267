import TagLint.Proofs.Service.Shares

/-! What the linting of files counts: the summary, the warnings and the spans tell of the same
files. -/
namespace TagLint.Service
open Text

variable {s : Service} {tree : FileTree} {asked : Option Text} {file : Path} {files : List Path}
  {n : Nat} {warnings paths : List Text} {cap : Option Int} {p : Progress} {shares : List Progress}
  {o : Outcome} {events : List LintEvent}

/-- The numbers of a summary fit its list, and the list fits the files. -/
structure Consistent (n : Nat) (m : LintSummary) : Prop where
  count : m.count = m.diagnostics.length
  split : m.errorCount + m.warningCount = m.count
  warningCount : m.warningCount = m.diagnostics.countP (·.diagnostic.severity = .warning)
  capped : m.count ≤ n
  healthy : m.isHealthy = true ↔ m.errorCount = 0
  nodup : m.files.Nodup
  grouped : Grouped m.files m.diagnostics
  path_mem : ∀ x ∈ m.diagnostics, x.path ∈ m.files

/-- The spans below the root tell of the files one by one, and the totals tell of all. -/
structure Accounts (files : List Path) (m : LintSummary) (root : Span) : Prop where
  children : root.children.map Span.name
    = "collect_files".toList :: files.map ("lint:".toList ++ ·.name)
  totals : ∀ key,
    Span.countOf key root.totals = (root.spans.map fun t => Span.countOf key t.counts).sum
  files : Span.countOf "files".toList root.totals = m.files.length
  structs : Span.countOf "structs".toList root.totals = m.structs
  diagnostics : (m.count : Int) ≤ Span.countOf "diagnostics".toList root.totals
  complete : (m.count : Int) = Span.countOf "diagnostics".toList root.totals ↔ m.truncated = false

theorem errorCount_add_countP_warning (m : LintSummary) :
    m.errorCount + m.diagnostics.countP (·.diagnostic.severity = .warning) = m.count := by
  have hwarning : m.diagnostics.countP (·.diagnostic.severity = .warning) =
      m.diagnostics.countP fun x => ¬ decide (x.diagnostic.severity = .error) := by
    apply List.countP_congr
    intro x _
    cases x.diagnostic.severity <;> decide
  rw [hwarning]
  exact (List.length_eq_countP_add_countP _).symm

theorem Gathered.consistent (h : Gathered n warnings shares p)
    (hnodup : (uncapped shares).files.Nodup)
    (hgrouped : Grouped (uncapped shares).files ((uncapped shares).diagnostics.take n)) :
    Consistent n p.summary := by
  have hsum := errorCount_add_countP_warning p.summary
  have hcapped : p.summary.count ≤ n := by
    rw [LintSummary.count, h.shows.diagnostics]
    exact List.length_take_le _ _
  rw [← h.files] at hnodup hgrouped
  rw [← h.shows.diagnostics] at hgrouped
  refine ⟨rfl, ?_, ?_, hcapped, ?_, hnodup, hgrouped, fun x => hgrouped.path_mem⟩
  · rw [LintSummary.warningCount]
    omega
  · rw [LintSummary.warningCount]
    omega
  · rw [LintSummary.isHealthy, beq_iff_eq]

/-- Only the spans of the files count something. -/
theorem totals_pathsSpan (matched : Nat) {spans : List Span}
    (hspans : ∀ t ∈ spans, t.children = [] ∧ Span.Unique t.counts) (key : Text) :
    let root := pathsSpan matched spans
    Span.countOf key root.totals = (root.spans.map fun t => Span.countOf key t.counts).sum ∧
    Span.countOf key root.totals = (spans.map fun t => Span.countOf key t.counts).sum := by
  intro root
  let collect : Span :=
    { name := "collect_files", annotations := [("matched".toList, .nat matched)] }
  have hbelow : root.spans = root :: collect :: spans := by
    change root :: collect :: Span.spansOf spans = _
    rw [Span.spansOf_leaves fun t ht => (hspans t ht).1]
  have hunique : ∀ t ∈ root.spans, Span.Unique t.counts := by
    rw [hbelow]
    intro t ht
    rcases List.mem_cons.mp ht with rfl | ht
    · exact List.nodup_nil
    · rcases List.mem_cons.mp ht with rfl | ht
      · exact List.nodup_nil
      · exact (hspans t ht).2
  have htotals := Span.countOf_totals key root hunique
  refine ⟨htotals, ?_⟩
  rw [htotals, hbelow, List.map_cons, List.map_cons, List.sum_cons, List.sum_cons]
  exact (Int.zero_add _).trans (Int.zero_add _)

theorem Gathered.accounts (h : Gathered n warnings (files.map (s.share tree asked)) p)
    (matched : Nat) :
    Accounts (linted tree files) p.summary (pathsSpan matched p.spans) := by
  have hleaves : ∀ t ∈ p.spans, t.children = [] ∧ Span.Unique t.counts := by
    rw [h.spans]
    intro t ht
    obtain ⟨share, hshare, ht⟩ := List.mem_flatMap.mp ht
    obtain ⟨file, -, rfl⟩ := List.mem_map.mp hshare
    exact leaf_of_mem_spans_share ht
  have htotals := fun key => (totals_pathsSpan matched hleaves key).2
  have hcounted : Counted p.spans (uncapped (files.map (s.share tree asked))) := by
    rw [h.spans]
    exact counted_uncapped s tree asked files
  have hcount :
      p.summary.count = min n (uncapped (files.map (s.share tree asked))).diagnostics.length := by
    rw [LintSummary.count, h.shows.diagnostics, List.length_take]
  refine ⟨?_, fun key => (totals_pathsSpan matched hleaves key).1, ?_, ?_, ?_, ?_⟩
  · change "collect_files".toList :: p.spans.map Span.name = _
    rw [h.spans, spanNames_shares]
  · rw [htotals, hcounted.files, h.files]
  · rw [htotals, hcounted.structs, h.structs]
  · rw [htotals, hcounted.diagnostics]
    omega
  · rw [htotals, hcounted.diagnostics, h.shows.truncated, decide_eq_false_iff_not]
    omega

/-- Files have been linted, unless there were none. -/
theorem exists_of_lintPaths (hrun : s.lintPaths tree paths cap asked = .ok (o, events))
    (hok : o.ok = true) :
    ∃ p, s.addFiles tree (s.limit cap) asked (s.started tree paths) (s.collected tree paths)
      = .ok p ∧
      o = s.withSpan (pathsSpan (s.collected tree paths).length p.spans)
        (p.summary.outcome p.warnings) := by
  by_cases hfiles : s.collected tree paths = []
  · rw [lintPaths_of_nil hfiles] at hrun
    obtain rfl := (Prod.mk.inj (Except.ok.inj hrun)).1
    rw [withSpan_ok] at hok
    cases hok
  · cases hp : s.addFiles tree (s.limit cap) asked (s.started tree paths)
        (s.collected tree paths) with
    | error e =>
      rw [lintPaths_of_ne_nil hfiles, hp] at hrun
      cases hrun
    | ok p =>
      rw [lintPaths_of_addFiles hfiles hp] at hrun
      exact ⟨p, rfl, (Prod.mk.inj (Except.ok.inj hrun)).1.symm⟩

/-- No other warning looks like one for a file that cannot be read. -/
theorem filter_warnings_started (s : Service) (tree : FileTree) (paths : List Text) :
    (s.started tree paths).warnings.filter isReadWarning = [] := by
  rw [List.filter_eq_nil_iff]
  intro w hw
  obtain ⟨missing, -, rfl⟩ := List.mem_map.mp hw
  exact Bool.false_ne_true

/-- Every path has its own file, so it tells whether that could be read. -/
theorem mem_linted_iff (ht : tree.WellNamed) (hfile : file ∈ s.collected tree paths) :
    file.toText ∈ (linted tree (s.collected tree paths)).map Path.toText ↔
    tree.readWarning? file = none := by
  constructor
  · intro hmem
    obtain ⟨file', hfile', htext⟩ := List.mem_map.mp hmem
    obtain ⟨hcollected, hread⟩ := List.mem_filter.mp hfile'
    have hwell := FileTree.wellFormed_of_mem_collect ht hfile
    have hwell' := FileTree.wellFormed_of_mem_collect ht hcollected
    obtain rfl := Path.toText_injective hwell' hwell htext
    exact Option.isNone_iff_eq_none.mp hread
  · intro hread
    exact List.mem_map_of_mem (List.mem_filter.mpr ⟨hfile, Option.isNone_iff_eq_none.mpr hread⟩)

/-- When files are linted, the summary lists the first diagnostics of them all and fits its list and
its files. There is one warning for each collected file that could not be read and is not among the
files. The spans tell of the same files and the same numbers. -/
theorem lintPaths_consistent (ht : tree.WellNamed) (hn : 0 ≤ s.limit cap)
    (hrun : s.lintPaths tree paths cap asked = .ok (o, events)) (hok : o.ok = true) :
    ∃ summary : LintSummary, o.data = summary.data ∧ Consistent (s.limit cap).toNat summary ∧
      Shows (s.limit cap).toNat
        (uncapped ((s.collected tree paths).map (s.share tree asked))).diagnostics summary ∧
      summary.files = (linted tree (s.collected tree paths)).map Path.toText ∧
      (∀ file ∈ s.collected tree paths, file.toText ∉ summary.files ↔
        (tree.readWarning? file).isSome) ∧
      o.warnings.filter isReadWarning = (s.collected tree paths).filterMap tree.readWarning? ∧
      (s.tracing = true → ∃ root : Span, o.info = some [("telemetry".toList, root.toJson)] ∧
        Accounts (linted tree (s.collected tree paths)) summary root ∧
        Json.get? "children".toList root.toJson = some (.list (Span.toJsons root.children)) ∧
        Json.get? "totals".toList root.toJson = some (Span.countsJson root.totals)) := by
  obtain ⟨n, hlimit⟩ := Int.eq_ofNat_of_zero_le hn
  obtain ⟨p, hp, rfl⟩ := exists_of_lintPaths hrun hok
  have hstarted : Gathered n (s.started tree paths).warnings [] (s.started tree paths) :=
    ⟨shows_nil n, rfl, rfl, (List.append_nil _).symm, rfl⟩
  rw [hlimit] at hp
  have h := addFiles_gathered hstarted hp
  rw [List.nil_append] at h
  have hfiles : p.summary.files = (linted tree (s.collected tree paths)).map Path.toText :=
    h.files.trans (files_uncapped s tree asked _)
  have hnodup : ((linted tree (s.collected tree paths)).map Path.toText).Nodup := by
    rw [List.Nodup, List.pairwise_map]
    exact (FileTree.pairwise_toText_collect ht s.selection paths).filter _
  rw [← hfiles, h.files] at hnodup
  have htoNat : (s.limit cap).toNat = n := by rw [hlimit, Int.toNat_natCast]
  rw [htoNat]
  have hconsistent := h.consistent hnodup (grouped_take_uncapped hnodup n)
  refine ⟨p.summary, withSpan_data _ _ _, hconsistent, h.shows, hfiles, ?_, ?_, ?_⟩
  · intro file hfile
    rw [hfiles, mem_linted_iff ht hfile, ← Option.ne_none_iff_isSome]
  · rw [withSpan_warnings]
    change p.warnings.filter isReadWarning = _
    rw [h.warnings, List.filter_append, filter_warnings_started, filter_warnings_shares,
      List.nil_append]
  · intro htracing
    refine ⟨_, ?_, h.accounts (s.collected tree paths).length, rfl, rfl⟩
    rw [withSpan, if_pos htracing]
    rfl

theorem linted_twoErrors : linted twoErrors [onlyFile] = [onlyFile] := by
  obtain ⟨text, hread, -⟩ := exists_read_twoErrors
  exact linted_of_ok hread

/-- Two errors, of which one is listed. -/
theorem lintPaths_consistent_twoErrors :
    let s : Service := { tracing := true }
    twoErrors.WellNamed ∧ 0 ≤ s.limit (some 1) ∧
    ∃ (o : Outcome) (events : List LintEvent) (summary : LintSummary) (root : Span),
      s.lintPaths twoErrors ["a.go".toList] (some 1) = .ok (o, events) ∧ o.ok = true ∧
      o.data = summary.data ∧
      Consistent 1 summary ∧ summary.files = ["a.go".toList] ∧
      o.info = some [("telemetry".toList, root.toJson)] ∧
      root.children.map Span.name = ["collect_files".toList, "lint:a.go".toList] ∧
      Span.countOf "files".toList root.totals = 1 := by
  intro s
  have hf : s.floor none = .ok .warning := rfl
  have hc : s.lint.maxProblems = (1000 : Nat) := rfl
  have hn : 0 ≤ s.limit (some 1) := by decide
  have hstart : Shows 1 [] (s.started twoErrors ["a.go".toList]).summary := shows_nil 1
  let paths := ["a.go".toList]
  obtain ⟨p, hp, -⟩ : ∃ p, s.addFiles twoErrors (s.limit (some 1)) none
      (s.started twoErrors paths) (s.collected twoErrors paths) = .ok p ∧ _ :=
    addFiles_shows hf hc hstart twoErrors _
  have hrun := lintPaths_of_addFiles ((collected_twoErrors_ne_nil s)) hp
  obtain ⟨summary, hdata, hconsistent, -, hfiles, -, -, htraced⟩ :=
    lintPaths_consistent wellNamed_twoErrors hn hrun (withSpan_ok _ _ _)
  obtain ⟨root, hinfo, haccounts, -⟩ := htraced rfl
  rw [collected_twoErrors, linted_twoErrors] at hfiles haccounts
  refine ⟨wellNamed_twoErrors, hn, _, _, summary, root, hrun, withSpan_ok _ _ _, hdata, hconsistent,
    hfiles, hinfo, haccounts.children, ?_⟩
  rw [haccounts.files, hfiles]
  rfl

end TagLint.Service
