import TagLint.Proofs.Render.Printer
import TagLint.Render.Output
import TagLint.Service.Lint
import TagLint.Service.Report

/-! The renderings of single operations: which always have a text, and which only if certain texts
show something. -/
namespace TagLint.Render
open Text

variable {pr : Printer} {d : Json} {ds : List EditorDiagnostic}

/-! ## One line for each finding -/

/-- A finding as the linter gives it. -/
def IsPlaced (d : Json) : Prop := ∃ p, d = LintSummary.placedJson p

theorem isPlaced_of_mem {ps : List Placed} (h : d ∈ ps.map LintSummary.placedJson) :
    IsPlaced d := by
  obtain ⟨p, -, rfl⟩ := List.mem_map.mp h
  exact ⟨p, rfl⟩

theorem succeeds_quiet {o : Outcome} {found : List Json} (hfound : diagnosticsOf o = .ok found)
    (hlines : ∀ d ∈ found, Succeeds (quietLine d)) : Succeeds (quiet o) := by
  obtain ⟨lines, hlines⟩ := succeeds_mapM_iff.mpr hlines
  cases hok : o.ok with
  | false =>
    rw [quiet, hok]
    exact succeeds_ok _
  | true =>
    rw [quiet, hok, hfound]
    cases found with
    | nil => exact succeeds_ok _
    | cons d ds =>
      have hpage : Succeeds ((.ok lines : Rendered (List Text)) >>= fun ls =>
        pure (join ['\n'] ls)) := succeeds_ok _
      rw [← hlines] at hpage
      exact hpage

theorem diagnosticsOf_eq {o : Outcome} {found : List Json}
    (h : getOr "diagnostics" .null o.data = .list found) : diagnosticsOf o = .ok found := by
  rw [diagnosticsOf, h]
  cases found with
  | nil => rfl
  | cons d ds => rfl

theorem succeeds_quiet_lint (s : LintSummary) (warnings : List Text) :
    Succeeds (quiet (s.outcome warnings)) := by
  have hfound : diagnosticsOf (s.outcome warnings)
      = .ok (s.diagnostics.map LintSummary.placedJson) := diagnosticsOf_eq rfl
  apply succeeds_quiet hfound
  intro d hd
  obtain ⟨p, rfl⟩ := isPlaced_of_mem hd
  exact ⟨_, rfl⟩

theorem succeeds_quietLine_toJson (options : ReportOptions) (uri : Text) (e : EditorDiagnostic) :
    Succeeds (quietLine (e.toJson options uri)) := by
  have hnone : optional "struct_name" (e.toJson options uri) = .ok none := by
    rw [EditorDiagnostic.toJson]
    split <;> rfl
  rw [quietLine, hnone]
  exact ⟨_, rfl⟩

/-! ## Tables of an editor -/

/-- Start and end as lines and columns. -/
def rangeShown (r : Range) : Text :=
  ofInt r.start.line ++ ":" ++ ofInt r.start.character ++ "-" ++ ofInt r.stop.line ++ ":"
    ++ ofInt r.stop.character

theorem bare_rangeShown (r : Range) : (rangeShown r).Bare := by
  simp only [rangeShown, bare_append, bare_ofInt, true_and, and_true]
  decide

theorem bare_code (e : EditorDiagnostic) : e.code.Bare := by
  unfold EditorDiagnostic.code
  cases e.severity <;> decide

/-- The table of a report with the given cells for the messages. -/
def reportColumns (ds : List EditorDiagnostic) (messages : List Part) : List Printer.Column :=
  [⟨"Range", true, ds.map fun e => .marked (rangeShown e.range)⟩,
    ⟨"Severity", false, ds.map fun e => .literal e.severity.name⟩,
    ⟨"Code", false, ds.map fun e => .marked e.code⟩, ⟨"Message", false, messages⟩]

/-- The lines of a report with the given cells for the messages. -/
def reportLines (pr : Printer) (uri : Text) (ds : List EditorDiagnostic) (messages : List Part) :
    Rendered (List Text) := do
  let status ← statusLine pr "report"
  let uri ← fieldLine pr "uri" uri
  if ds = [] then return status ++ uri ++ (← fieldLine pr "count" ['0'])
  else return status ++ uri ++ (← pr.table (reportColumns ds messages))

/-- The cells for messages in which style tags count. -/
def markedMessages (ds : List EditorDiagnostic) : List Part := ds.map fun e => .marked e.message

theorem reportRow_toJson (options : ReportOptions) (uri : Text) (e : EditorDiagnostic) :
    reportRow (e.toJson options uri) = .ok [.marked (rangeShown e.range), .literal e.severity.name,
      .marked e.code, .marked e.message] := by
  have hseverity : (if ["1".toList, "1.0".toList, "True".toList].contains (Json.nat e.level).shown
      then "error" else "warning").toList = e.severity.name := by
    cases h : e.severity with
    | error =>
      have hone : e.level = 1 := by rw [EditorDiagnostic.level, h]
      rw [hone]
      decide +kernel
    | warning =>
      have htwo : e.level = 2 := by rw [EditorDiagnostic.level, h]
      rw [htwo]
      decide +kernel
  rw [← hseverity]
  rfl

theorem mapM_reportRow (options : ReportOptions) (uri : Text) (ds : List EditorDiagnostic) :
    (ds.map (EditorDiagnostic.toJson options uri)).mapM reportRow = .ok (ds.map fun e =>
      [.marked (rangeShown e.range), .literal e.severity.name, .marked e.code,
        .marked e.message]) := by
  rw [mapM_eq_ok_iff, List.forall₂_map_left_iff, List.forall₂_map_right_iff]
  exact List.forall₂_same.mpr fun e _ => reportRow_toJson options uri e

/-- In a report style tags count in every message. -/
theorem report_eq (options : ReportOptions) (uri : Text) (ds : List EditorDiagnostic)
    (count : Json) :
    report pr "report" [("uri".toList, .text uri),
        ("diagnostics".toList, .list (ds.map (EditorDiagnostic.toJson options uri))),
        ("count".toList, count)]
      = reportLines pr uri ds (markedMessages ds) := by
  have hcolumns : reportTable (ds.map fun e => [.marked (rangeShown e.range),
      .literal e.severity.name, .marked e.code, .marked e.message])
      = reportColumns ds (markedMessages ds) := by
    simp [reportTable, columnOf, reportColumns, markedMessages]
  cases ds with
  | nil => rfl
  | cons e ds =>
    have hform : report pr "report" [("uri".toList, .text uri),
        ("diagnostics".toList, .list ((e :: ds).map (EditorDiagnostic.toJson options uri))),
        ("count".toList, count)] = (do
        let status ← statusLine pr "report"
        let address ← fieldLine pr "uri" uri
        let rows ← ((e :: ds).map (EditorDiagnostic.toJson options uri)).mapM reportRow
        return status ++ address ++ (← pr.table (reportTable rows))) := rfl
    rw [hform, mapM_reportRow, reportLines, ← hcolumns]
    rfl

/-! ## Tables of keys -/

/-- The rows for the keys of a class. -/
def keyRows (p : KeyClass × List Text) : List (Part × Part) :=
  p.2.map fun name => (.marked name, .literal p.1.name)

theorem mapM_keyCell (names : List Text) :
    (names.map Json.text).mapM keyCell = .ok (names.map .marked) := by
  rw [mapM_eq_ok_iff, List.forall₂_map_left_iff, List.forall₂_map_right_iff]
  exact List.forall₂_same.mpr fun _ _ => rfl

theorem mapM_keyRows (classes : List (KeyClass × List Text)) :
    ((classes.map fun p => (p.1.name, Json.texts p.2)).mapM fun (c, names) => do
      return (← (← asItems names).mapM keyCell).map (·, Part.literal c))
      = .ok (classes.map keyRows) := by
  rw [mapM_eq_ok_iff, List.forall₂_map_left_iff, List.forall₂_map_right_iff]
  refine List.forall₂_same.mpr fun p _ => ?_
  change ((p.2.map Json.text).mapM keyCell >>= _) = _
  rw [mapM_keyCell]
  exact congrArg Except.ok List.map_map

section Lawful

variable (hpr : pr.Lawful)
include hpr

/-! ## Findings of the linter -/

theorem succeeds_findingLines (verbose : Bool) (p : Placed) :
    Succeeds (findingLines pr verbose (LintSummary.placedJson p)) := by
  obtain ⟨line, hline⟩ : ∃ line, findingLines pr verbose (LintSummary.placedJson p) = (do
      let own ← pr.lines [.literal line]
      if verbose && (Json.text p.diagnostic.tag).isTruthy then
        return own ++ (← pr.lines [.literal ("      tag: " ++ p.diagnostic.tag)])
      else return own) := ⟨_, rfl⟩
  rw [hline]
  refine (hpr.succeeds_literal line).bind fun own => ?_
  split
  · exact (hpr.succeeds_literal _).bind fun tag => succeeds_ok _
  · exact succeeds_ok _

theorem succeeds_structLines (verbose : Bool) {group : Json × List Json}
    (h : ∀ d ∈ group.2, IsPlaced d) : Succeeds (structLines pr verbose group) := by
  have hlines : Succeeds (group.2.mapM (findingLines pr verbose)) := by
    rw [succeeds_mapM_iff]
    intro d hd
    obtain ⟨p, rfl⟩ := h d hd
    exact succeeds_findingLines hpr verbose p
  exact (hpr.succeeds_literal _).bind fun own => hlines.bind fun _ => succeeds_ok _

theorem succeeds_pathLines (verbose : Bool) {group : Text × List Json}
    (h : ∀ d ∈ group.2, IsPlaced d) : Succeeds (pathLines pr verbose group) := by
  have hkeys : ∀ d ∈ group.2, Succeeds (need "struct_name" d) := by
    intro d hd
    obtain ⟨p, rfl⟩ := h d hd
    exact ⟨_, rfl⟩
  obtain ⟨structs, hstructs, hitems⟩ := exists_groupBy sameValue hkeys
  have hlines : Succeeds (structs.mapM (structLines pr verbose)) := by
    rw [succeeds_mapM_iff]
    intro g hg
    exact succeeds_structLines hpr verbose fun d hd => h d (hitems g hg hd)
  have hrest : ∀ own : List Text, Succeeds (structs.mapM (structLines pr verbose) >>= fun lines =>
    pure (own ++ lines.flatten)) := fun own => hlines.bind fun _ => succeeds_ok _
  rw [pathLines, hstructs]
  change Succeeds (if group.1 = [] then _ else _)
  split
  · exact hrest []
  · exact (hpr.succeeds_literal _).bind hrest

theorem succeeds_noFindings (s : LintSummary) :
    Succeeds (pr.lines [.marked (noFindings s.data s.files.length)]) := by
  have hstyle : "gl.ok".toList ∈ Printer.styles := by decide
  have hok : Bare "OK" := by decide
  have htext : noFindings s.data s.files.length = "[" ++ "gl.ok" ++ "]" ++ "OK" ++ "[/" ++ "gl.ok"
      ++ "]" ++ ("  No GORM tag problems found (" ++ ofInt s.structs ++ " structs in "
        ++ ofNat s.files.length ++ " files)." : Text) := rfl
  have hrest : Bare ("  No GORM tag problems found (" ++ ofInt s.structs ++ " structs in "
      ++ ofNat s.files.length ++ " files).") := by
    simp only [bare_append]
    exact ⟨⟨⟨⟨by decide, bare_ofInt _⟩, by decide⟩, bare_ofNat _⟩, by decide⟩
  rw [hpr.succeeds_marked_iff, htext, hpr.styled _ hstyle hok]
  exact hpr.succeeds_bare hrest

theorem succeeds_lintTotals (s : LintSummary) :
    Succeeds (pr.lines [.marked (lintTotals s.data)]) := by
  have htext : lintTotals s.data = "\n" ++ ofInt s.errorCount ++ " errors, "
      ++ ofInt s.warningCount ++ " warnings" ++ (if s.truncated then " (truncated)".toList else [])
    := rfl
  have hnote : Bare (if s.truncated then " (truncated)".toList else []) := by
    split <;> decide
  rw [hpr.succeeds_marked_iff, htext]
  apply hpr.succeeds_bare
  simp only [bare_append]
  exact ⟨⟨⟨⟨⟨by decide, bare_ofInt _⟩, by decide⟩, bare_ofInt _⟩, by decide⟩, hnote⟩

/-- A summary always has a text. -/
theorem succeeds_lint (verbose : Bool) (s : LintSummary) : Succeeds (lint pr verbose s.data) := by
  have hfound : getOr "diagnostics" (.list []) s.data
      = .list (s.diagnostics.map LintSummary.placedJson) := rfl
  rw [lint, hfound]
  split
  · have hfiles : asItems (getOr "files" (.list []) s.data) = .ok (s.files.map Json.text) := rfl
    have hlength : (s.files.map Json.text).length = s.files.length := List.length_map _
    have hclean := succeeds_noFindings hpr s
    rw [← hlength] at hclean
    exact hclean
  · have hpaths : ∀ d ∈ s.diagnostics.map LintSummary.placedJson, Succeeds (pathOf d) := by
      intro d hd
      obtain ⟨p, rfl⟩ := isPlaced_of_mem hd
      exact ⟨_, rfl⟩
    obtain ⟨groups, hgroups, hitems⟩ := exists_groupBy (· == ·) hpaths
    have hlines : Succeeds (groups.mapM (pathLines pr verbose)) := by
      rw [succeeds_mapM_iff]
      intro g hg
      exact succeeds_pathLines hpr verbose fun d hd => isPlaced_of_mem (hitems g hg hd)
    change Succeeds (groupBy pathOf (· == ·) (s.diagnostics.map LintSummary.placedJson) >>= _)
    rw [hgroups]
    exact hlines.bind fun _ => (succeeds_lintTotals hpr s).bind fun _ => succeeds_ok _

/-! ## Findings for an editor -/

theorem succeeds_reportTable_iff (ds : List EditorDiagnostic) :
    Succeeds (pr.table (reportColumns ds (markedMessages ds)))
      ↔ ∀ e ∈ ds, Succeeds (pr.shown e.message) := by
  have hrange := fun e : EditorDiagnostic => hpr.succeeds_bare (bare_rangeShown e.range)
  have hcode := fun e : EditorDiagnostic => hpr.succeeds_bare (bare_code e)
  rw [hpr.table]
  simp [reportColumns, markedMessages, hrange, hcode]

theorem succeeds_reportLines_iff (uri : Text) (ds : List EditorDiagnostic) :
    Succeeds (reportLines pr uri ds (markedMessages ds))
      ↔ ∀ e ∈ ds, Succeeds (pr.shown e.message) := by
  refine (hpr.succeeds_statusLine "report").bind_iff fun status => ?_
  refine (hpr.succeeds_fieldLine "uri" uri).bind_iff fun address => ?_
  cases ds with
  | nil =>
    refine iff_of_true ?_ (by simp)
    exact (hpr.succeeds_fieldLine "count" ['0']).bind fun count => succeeds_ok _
  | cons e ds => exact succeeds_map_iff.trans (succeeds_reportTable_iff hpr (e :: ds))

/-- The table shows what the messages show. -/
theorem reportLines_shown {shown : List Text}
    (h : List.Forall₂ (fun e u => pr.shown e.message = .ok u) ds shown) (uri : Text) :
    reportLines pr uri ds (markedMessages ds) = reportLines pr uri ds (shown.map .literal) := by
  have hcells : List.Forall₂ (Printer.ShownAs pr) (markedMessages ds) (shown.map .literal) := by
    rw [markedMessages, List.forall₂_map_left_iff, List.forall₂_map_right_iff]
    exact h.imp fun e u hu => .shown hu
  have hsame (c : Printer.Column) : c.LooksAs pr c :=
    ⟨rfl, rfl, List.forall₂_same.mpr fun _ _ => .same _⟩
  have htable : pr.table (reportColumns ds (markedMessages ds))
      = pr.table (reportColumns ds (shown.map .literal)) := by
    apply hpr.table_congr
    exact .cons (hsame _) (.cons (hsame _) (.cons (hsame _) (.cons ⟨rfl, rfl, hcells⟩ .nil)))
  rw [reportLines, reportLines, htable]

/-! ## Keys and places -/

/-- Names without brackets stand in a table as well as any text. -/
theorem succeeds_keys {classes : List (KeyClass × List Text)}
    (h : ∀ p ∈ classes, ∀ name ∈ p.2, name.Bare) :
    Succeeds (keys pr (Service.keysOutcome classes).data) := by
  have htotal : Succeeds (pr.lines [.marked ("\n"
      ++ ofInt (classes.foldl (fun n c => n + c.2.length) 0 : Nat) ++ " keys")]) := by
    rw [hpr.succeeds_marked_iff]
    apply hpr.succeeds_bare
    simp only [bare_append, bare_ofInt, and_true]
    exact ⟨by decide, by decide⟩
  let rows := (classes.map keyRows).flatten
  have htable : Succeeds (pr.table
      [⟨"Key", true, rows.map (·.1)⟩, ⟨"Class", false, rows.map (·.2)⟩]) := by
    rw [hpr.table]
    intro c hc t ht
    have hcell : ∃ row ∈ rows, .marked t = row.1 ∨ .marked t = row.2 := by
      rcases List.mem_cons.mp hc with rfl | hc
      · obtain ⟨row, hrow, hcell⟩ := List.mem_map.mp ht
        exact ⟨row, hrow, .inl hcell.symm⟩
      · obtain rfl := List.mem_singleton.mp hc
        obtain ⟨row, hrow, hcell⟩ := List.mem_map.mp ht
        exact ⟨row, hrow, .inr hcell.symm⟩
    obtain ⟨row, hrow, hcell⟩ := hcell
    obtain ⟨group, hgroup, hrow⟩ := List.mem_flatten.mp hrow
    obtain ⟨p, hp, rfl⟩ := List.mem_map.mp hgroup
    obtain ⟨name, hname, rfl⟩ := List.mem_map.mp hrow
    rcases hcell with hcell | hcell
    · obtain rfl := Part.marked.inj hcell
      exact hpr.succeeds_bare (h p hp t hname)
    · cases hcell
  rw [keys]
  change Succeeds ((classes.map fun p => (p.1.name, Json.texts p.2)).mapM _ >>= _)
  rw [mapM_keyRows]
  exact htable.bind fun _ => htotal.bind fun _ => succeeds_ok _

/-- A place always has a text. -/
theorem succeeds_locate (op structName fieldName text : Text) (key : Option Text) (r : Range) :
    Succeeds (locate pr op [("struct".toList, .text structName), ("field".toList, .text fieldName),
      ("key".toList, .ofOption key), ("range".toList, r.toJson), ("text".toList, .text text)]) := by
  have hrest : ∀ before : List Text, Succeeds (fieldLine pr "range" (rangeShown r) >>= fun range =>
      fieldLine pr "text" text >>= fun text => pure (before ++ range ++ text)) := fun before =>
    (hpr.succeeds_fieldLine _ _).bind fun _ => (hpr.succeeds_fieldLine _ _).bind fun _ =>
      succeeds_ok _
  refine (hpr.succeeds_statusLine op).bind fun status => ?_
  refine (hpr.succeeds_fieldLine "struct" structName).bind fun struct => ?_
  refine (hpr.succeeds_fieldLine "field" fieldName).bind fun field => ?_
  change Succeeds (if (Json.ofOption key).isTruthy then _ else _)
  split
  · exact (hpr.succeeds_fieldLine "key" _).bind fun key => hrest (status ++ struct ++ field ++ key)
  · exact hrest (status ++ struct ++ field ++ [])

end Lawful

end TagLint.Render
