import TagLint.Proofs.Render.Console
import TagLint.Proofs.Render.Operations
import TagLint.Proofs.Render.Telemetry
import TagLint.Proofs.Service.Shares

/-! Every answer of a service as a text: in short always, as a document if its texts can be written,
and otherwise if and only if the texts from outside in which style tags count show something. -/
namespace TagLint
open Text Render

/-- What can be asked of a service. -/
inductive Request where
  | lintText (text path : Text) (cap : Option Int) (floor : Option Text)
  | lintPaths (tree : FileTree) (paths : List Text) (cap : Option Int) (floor : Option Text)
  | locate (text structName fieldName : Text) (key : Option Text)
  | report (text uri : Text) (cap : Option Int)
  | keys (kind : Option Text)

namespace Service

def answer (s : Service) : Request → Except UnknownSeverity Outcome
  | .lintText text path cap floor => (s.lintText text path cap floor).map (·.1)
  | .lintPaths tree paths cap floor => (s.lintPaths tree paths cap floor).map (·.1)
  | .locate text structName fieldName key => .ok (s.locate text structName fieldName key)
  | .report text uri cap => .ok (s.reportText text uri cap)
  | .keys kind => .ok (s.keys kind)

/-- The texts from outside in which style tags count: messages of a report, a class of keys that is
not known, and, when details are asked for, paths that lead to no file and the names of linted files
in a span tree. -/
def marked (s : Service) (verbose : Bool) : Request → List Text
  | .lintText .. => []
  | .lintPaths tree paths _ _ =>
    let files := s.collected tree paths
    if !verbose then []
    else if files = [] then ["    paths: " ++ (Json.texts paths).display]
    else if s.tracing then (linted tree files).map Path.name
    else []
  | .locate .. => []
  | .report text _ cap => (s.editorDiagnostics text cap).map (·.message)
  | .keys none => []
  | .keys (some kind) =>
    match KeyClass.ofName? (lower kind) with
    | some _ => []
    | none => ["Unknown key classification: " ++ kind]

end Service

namespace Render

variable {pr : Printer} {s : Service} {o : Outcome} {span : Span} {verbose : Bool} {name : Text}
  {counts : List (Text × Int)} {tree : FileTree} {asked : Option Text} {file : Path}
  {texts others : Bool → List Text}

/-! ## Outcomes and their spans -/

/-- The lines of an outcome without its notes. -/
def body (pr : Printer) (verbose : Bool) (o : Outcome) : Rendered (List Text) :=
  if o.ok then operation pr verbose o else failure pr verbose o

theorem render_full (o : Outcome) : pr.render .full o = (body pr false o).map page := by
  rw [Printer.render, lines, body]
  cases o.ok <;> rfl

theorem succeeds_render_verbose_iff (o : Outcome) : Succeeds (pr.render .verbose o)
    ↔ Succeeds (body pr true o) ∧ (o.ok → Succeeds (infoLines pr o)) := by
  rw [Printer.render, succeeds_map_iff, lines, body]
  cases o.ok with
  | false => simp
  | true =>
    simp only [Bool.not_true, Bool.false_eq_true, if_false, if_true, true_implies]
    exact succeeds_bind_iff fun found => succeeds_map_iff

theorem body_withSpan : body pr verbose (s.withSpan span o) = body pr verbose o := by
  rw [Service.withSpan]
  split <;> rfl

theorem quiet_withSpan : quiet (s.withSpan span o) = quiet o := by
  rw [Service.withSpan]
  split <;> rfl

/-! ## Spans of operations -/

theorem plain_leaf (h : ∀ p ∈ counts, p.1.Bare) : Plain { name, counts } :=
  .span h (by simp) (by simp)

theorem bare_documentCounts (structs diagnostics : Nat) :
    ∀ p ∈ Service.documentCounts structs diagnostics, p.1.Bare := by
  simp only [Service.documentCounts, List.forall_mem_cons]
  exact ⟨by decide, by decide, by decide, by simp⟩

theorem plain_of_mem_share {t : Span} (ht : t ∈ (s.share tree asked file).spans) : Plain t := by
  cases hread : tree.read file file.toText with
  | error e =>
    rw [Service.share_of_error hread] at ht
    cases ht
  | ok text =>
    simp only [Service.share, hread, List.mem_singleton] at ht
    subst t
    exact plain_leaf (bare_documentCounts _ _)

theorem plain_pathsSpan {spans : List Span} (h : ∀ t ∈ spans, Plain t) (n : Nat) :
    Plain (Service.pathsSpan n spans) := by
  refine .span (by simp) (by simp) (List.forall_mem_cons.mpr ⟨?_, h⟩)
  refine .span (by simp) (fun p hp => ?_) (by simp)
  have hkey : Bare "matched" := by decide
  rw [List.mem_singleton.mp hp]
  exact ⟨hkey, bare_ofInt n⟩

theorem bare_namesOf (c : KeyClass) : ∀ name ∈ ({} : Vocabulary).namesOf c, name.Bare := by
  cases c <;> decide +kernel

/-! ## Answers -/

/-- When an outcome has a text: in short always, as a document if and only if its texts can be
written, and otherwise if and only if the given texts show something. -/
structure RendersIff (pr : Printer) (o : Outcome) (marked : Bool → List Text) : Prop where
  json : Succeeds (pr.render .json o) ↔ ∀ t ∈ o.toJson.strings, Succeeds (pr.written t)
  quiet : Succeeds (pr.render .quiet o)
  full : Succeeds (pr.render .full o) ↔ ∀ m ∈ marked false, Succeeds (pr.shown m)
  verbose : Succeeds (pr.render .verbose o) ↔ ∀ m ∈ marked true, Succeeds (pr.shown m)

theorem RendersIff.congr (h : RendersIff pr o texts)
    (hsame : ∀ v, (∀ m ∈ texts v, Succeeds (pr.shown m)) ↔ ∀ m ∈ others v, Succeeds (pr.shown m)) :
    RendersIff pr o others :=
  ⟨h.json, h.quiet, h.full.trans (hsame false), h.verbose.trans (hsame true)⟩

section Lawful

variable (hpr : pr.Lawful)
include hpr

theorem succeeds_infoLines_iff (ho : o.info = none) (h : Plain span) :
    Succeeds (infoLines pr (s.withSpan span o))
      ↔ (s.tracing → ∀ t ∈ span.spans, Succeeds (pr.shown t.name)) := by
  rw [Service.withSpan]
  split
  case isTrue htracing =>
    have hinfo : (o.traced span).info = some [("telemetry".toList, span.toJson)] := by
      rw [Outcome.traced, ho]
      rfl
    have htitle : Succeeds (pr.lines [.literal "  meta:"]) := hpr.succeeds_literal _
    have hblank : Succeeds (pr.lines []) := hpr.succeeds_literals []
    rw [infoLines, hinfo]
    simp only [Option.getD_some, htracing, true_implies]
    refine htitle.bind_iff fun title => hblank.bind_iff fun blank => succeeds_map_iff.trans ?_
    rw [succeeds_mapM_iff, List.forall_mem_singleton]
    exact succeeds_spanLines_iff hpr h 4
  case isFalse htracing =>
    rw [infoLines, ho]
    exact iff_of_true (succeeds_ok []) fun h => absurd h htracing

/-- Without notes of its own, an outcome has those of its span. -/
theorem rendersIff_withSpan (ho : o.info = none) (hspan : Plain span)
    (hquiet : Succeeds (Render.quiet o))
    (hbody : ∀ v, Succeeds (body pr v o) ↔ ∀ m ∈ texts v, Succeeds (pr.shown m)) :
    RendersIff pr (s.withSpan span o) fun v => texts v
      ++ if v ∧ o.ok ∧ s.tracing then span.spans.map Span.name else [] where
  json := hpr.document
  quiet := by
    rw [Printer.render, quiet_withSpan]
    exact hquiet
  full := by
    rw [render_full, succeeds_map_iff, body_withSpan, hbody]
    simp
  verbose := by
    rw [succeeds_render_verbose_iff, body_withSpan, hbody, Service.withSpan_ok,
      succeeds_infoLines_iff hpr ho hspan]
    by_cases hspans : o.ok ∧ s.tracing
    · simp [hspans, or_imp, forall_and]
    · simp only [true_and, hspans, if_false, List.append_nil, and_iff_left_iff_imp]
      exact fun _ hok htracing => absurd ⟨hok, htracing⟩ hspans

/-- The span of an operation that looks at one text adds nothing. -/
theorem rendersIff_withLeaf (ho : o.info = none) (hname : name.Bare)
    (hcounts : ∀ p ∈ counts, p.1.Bare) (hquiet : Succeeds (Render.quiet o))
    (hbody : ∀ v, Succeeds (body pr v o) ↔ ∀ m ∈ texts v, Succeeds (pr.shown m)) :
    RendersIff pr (s.withSpan { name, counts } o) texts := by
  refine (rendersIff_withSpan hpr ho (plain_leaf hcounts) hquiet hbody).congr fun v => ?_
  have hspan : ∀ t ∈ Span.spans { name, counts }, Succeeds (pr.shown t.name) := by
    intro t ht
    obtain rfl := List.mem_singleton.mp ht
    exact hpr.succeeds_bare hname
  rw [List.forall_mem_append, and_iff_left_iff_imp]
  intro _ m hm
  split at hm
  · obtain ⟨t, ht, rfl⟩ := List.mem_map.mp hm
    exact hspan t ht
  · cases hm

/-! ## Linting -/

theorem succeeds_body_outcome (v : Bool) (summary : LintSummary) (warnings : List Text) :
    Succeeds (body pr v (summary.outcome warnings)) :=
  succeeds_lint hpr v summary

theorem rendersIff_lintText {text path : Text} {cap : Option Int} {events : List LintEvent}
    (ho : s.lintText text path cap asked = .ok (o, events)) : RendersIff pr o fun _ => [] := by
  simp only [Service.lintText] at ho
  cases hf : s.floor asked with
  | error e =>
    rw [hf] at ho
    cases ho
  | ok f =>
    rw [hf] at ho
    obtain ⟨rfl, -⟩ := Prod.mk.inj (Except.ok.inj ho)
    refine rendersIff_withLeaf hpr rfl (by decide) (bare_documentCounts _ _)
      (succeeds_quiet_lint _ _) fun v => ?_
    exact iff_of_true (succeeds_body_outcome hpr v _ _) (by simp)

theorem succeeds_detailLines_iff (e : OutcomeError) : Succeeds (detailLines pr e)
    ↔ ∀ p ∈ e.detail, Succeeds (pr.shown ("    " ++ p.1 ++ ": " ++ p.2.display)) := by
  have htitle : Succeeds (pr.lines [.literal "  detail:"]) := hpr.succeeds_literal _
  rw [detailLines]
  cases h : e.detail with
  | nil => simp [pure, Except.pure]
  | cons p ps =>
    refine htitle.bind_iff fun title => succeeds_map_iff.trans ?_
    rw [succeeds_mapM_iff]
    exact forall₂_congr fun p _ => hpr.succeeds_marked_iff

/-- The lines of a failure depend on its message, and on its details when they are asked for. -/
theorem succeeds_body_failure_iff (v : Bool) (op code message : Text) (warnings : List Text)
    (detail : List (Text × Json)) :
    Succeeds (body pr v (Outcome.failure op code message warnings detail))
      ↔ Succeeds (pr.shown message)
        ∧ (v → ∀ p ∈ detail, Succeeds (pr.shown ("    " ++ p.1 ++ ": " ++ p.2.display))) := by
  have hdash : Bare " — " := by decide
  have hline : Succeeds (pr.lines [.literal "ERROR", .literal ("  " ++ op), .marked " — ",
      .marked message]) ↔ Succeeds (pr.shown message) := by
    rw [hpr.lines]
    simp only [List.mem_cons, reduceCtorEq, Part.marked.injEq, List.not_mem_nil, false_or, or_false,
      forall_eq_or_imp, forall_eq]
    exact and_iff_right (hpr.succeeds_bare hdash)
  rw [← hline, ← succeeds_detailLines_iff hpr ⟨code, message, detail⟩]
  refine succeeds_bind_iff fun line => ?_
  cases v with
  | false => exact iff_of_true (succeeds_ok _) (by simp)
  | true => exact succeeds_map_iff.trans (by simp)

/-- The names in the span tree of several files. -/
theorem shown_pathsSpan_iff {spans : List Span} {files : List Path}
    (hleaves : ∀ t ∈ spans, t.children = [])
    (hnames : spans.map Span.name = files.map ("lint:".toList ++ ·.name)) (n : Nat) :
    (∀ t ∈ (Service.pathsSpan n spans).spans, Succeeds (pr.shown t.name))
      ↔ ∀ name ∈ files.map Path.name, Succeeds (pr.shown name) := by
  have htree : (Service.pathsSpan n spans).spans = Service.pathsSpan n spans
      :: { name := "collect_files", annotations := [("matched".toList, .nat n)] } :: spans := by
    rw [Service.pathsSpan, Span.spans, Span.spansOf, Span.spansOf_leaves hleaves]
    rfl
  have hroot : Succeeds (pr.shown "LintService.lint_paths") := hpr.succeeds_bare (by decide)
  have hcollect : Succeeds (pr.shown "collect_files") := hpr.succeeds_bare (by decide)
  have hlint : Bare "lint:" := by decide
  have hfiles : (∀ t ∈ spans, Succeeds (pr.shown t.name))
      ↔ ∀ name ∈ spans.map Span.name, Succeeds (pr.shown name) := by rw [List.forall_mem_map]
  rw [htree, List.forall_mem_cons, List.forall_mem_cons, hfiles, hnames]
  refine (and_iff_right hroot).trans ((and_iff_right hcollect).trans ?_)
  rw [List.forall_mem_map, List.forall_mem_map]
  refine forall₂_congr fun file _ => ?_
  have hname := hpr.bare file.name hlint bare_nil
  rwa [List.append_nil] at hname

theorem rendersIff_noFiles (warnings paths : List Text) :
    RendersIff pr (s.withSpan (Service.pathsSpan 0 []) (.failure "lint" "NO_FILES"
        "No Go files found to lint" warnings [("paths".toList, .texts paths)]))
      fun v => if v then ["    paths: " ++ (Json.texts paths).display] else [] := by
  have hmessage : Bare "No Go files found to lint" := by decide
  let failed : Outcome := .failure "lint" "NO_FILES" "No Go files found to lint" warnings
    [("paths".toList, .texts paths)]
  have hquiet : Succeeds (Render.quiet failed) := succeeds_ok _
  have hbody : ∀ v, Succeeds (body pr v failed) ↔ ∀ m ∈ (if v then
      ["    paths: " ++ (Json.texts paths).display] else [] : List Text),
      Succeeds (pr.shown m) := by
    intro v
    rw [succeeds_body_failure_iff hpr, and_iff_right (hpr.succeeds_bare hmessage)]
    cases v with
    | false => simp
    | true =>
      simp only [true_implies, if_true, List.forall_mem_singleton]
      rfl
  refine (rendersIff_withSpan hpr rfl (plain_pathsSpan (by simp) 0) hquiet hbody).congr fun v => ?_
  -- An operation that did not run shows no span.
  have hok : failed.ok = false := rfl
  simp only [hok, Bool.false_eq_true, false_and, and_false, if_false, List.append_nil]

theorem rendersIff_files {p : Service.Progress} {files : List Path} (n : Nat)
    (hspans : p.spans = (files.map (s.share tree asked)).flatMap (·.spans)) :
    RendersIff pr (s.withSpan (Service.pathsSpan n p.spans) (p.summary.outcome p.warnings))
      fun v => if v && s.tracing then (Service.linted tree files).map Path.name else [] := by
  have hshare : ∀ t ∈ p.spans, ∃ file, t ∈ (s.share tree asked file).spans := by
    intro t ht
    rw [hspans] at ht
    obtain ⟨share, hshare, ht⟩ := List.mem_flatMap.mp ht
    obtain ⟨file, -, rfl⟩ := List.mem_map.mp hshare
    exact ⟨file, ht⟩
  have hplain : ∀ t ∈ p.spans, Plain t := fun t ht => plain_of_mem_share (hshare t ht).choose_spec
  have hleaves : ∀ t ∈ p.spans, t.children = [] := fun t ht =>
    (Service.leaf_of_mem_spans_share (hshare t ht).choose_spec).1
  have hnames : p.spans.map Span.name
      = (Service.linted tree files).map ("lint:".toList ++ ·.name) :=
    hspans ▸ Service.spanNames_shares s tree asked files
  have hbody : ∀ v, Succeeds (body pr v (p.summary.outcome p.warnings))
      ↔ ∀ m ∈ ([] : List Text), Succeeds (pr.shown m) := fun v =>
    iff_of_true (succeeds_body_outcome hpr v _ _) (by simp)
  refine (rendersIff_withSpan hpr rfl (plain_pathsSpan hplain n) (succeeds_quiet_lint _ _)
    hbody).congr fun v => ?_
  have hshown := shown_pathsSpan_iff hpr hleaves hnames n
  cases v with
  | false => simp
  | true =>
    cases htracing : s.tracing with
    | false => simp
    | true =>
      simp only [true_and, LintSummary.outcome, if_true, List.nil_append, Bool.and_self]
      rw [List.forall_mem_map]
      exact hshown

theorem rendersIff_lintPaths {paths : List Text} {cap : Option Int} {events : List LintEvent}
    (ho : s.lintPaths tree paths cap asked = .ok (o, events)) :
    RendersIff pr o fun v => s.marked v (.lintPaths tree paths cap asked) := by
  by_cases hnone : s.collected tree paths = []
  · rw [Service.lintPaths_of_nil hnone] at ho
    obtain ⟨rfl, -⟩ := Prod.mk.inj (Except.ok.inj ho)
    refine (rendersIff_noFiles hpr _ paths).congr fun v => ?_
    cases v <;> simp [Service.marked, hnone]
  · rw [Service.lintPaths_of_ne_nil hnone] at ho
    obtain ⟨p, hp, ho⟩ := map_eq_ok_iff.mp ho
    obtain ⟨rfl, -⟩ := Prod.mk.inj ho
    refine (rendersIff_files hpr _ (Service.spans_addFiles hp)).congr fun v => ?_
    cases v <;> simp [Service.marked, hnone]

/-! ## The other operations -/

theorem rendersIff_locate (text structName fieldName : Text) (key : Option Text) :
    RendersIff pr (s.locate text structName fieldName key) fun _ => [] := by
  refine rendersIff_withLeaf hpr rfl (by decide) (by simp) ?_ fun v => ?_
  · exact succeeds_quiet (show diagnosticsOf _ = .ok [] from rfl) (by simp)
  · exact iff_of_true (succeeds_locate hpr _ _ _ _ _ _) (by simp)

theorem rendersIff_report (text uri : Text) (cap : Option Int) :
    RendersIff pr (s.reportText text uri cap)
      fun _ => (s.editorDiagnostics text cap).map (·.message) := by
  have hcounted : Bare "diagnostics" := by decide
  refine rendersIff_withLeaf hpr rfl (by decide) (by simpa using hcounted) ?_ fun v => ?_
  · refine succeeds_quiet (diagnosticsOf_eq rfl) fun d hd => ?_
    obtain ⟨e, -, rfl⟩ := List.mem_map.mp hd
    exact succeeds_quietLine_toJson s.report uri e
  · rw [List.forall_mem_map, ← succeeds_reportLines_iff hpr uri, ← report_eq s.report]
    rfl

theorem rendersIff_keysOutcome {classes : List (KeyClass × List Text)}
    (h : ∀ p ∈ classes, ∀ name ∈ p.2, name.Bare) :
    RendersIff pr (s.withSpan { name := "LintService.keys" } (Service.keysOutcome classes))
      fun _ => [] := by
  refine rendersIff_withLeaf hpr rfl (by decide) (by simp) ?_ fun v => ?_
  · exact succeeds_quiet (show diagnosticsOf _ = .ok [] from rfl) (by simp)
  · exact iff_of_true (succeeds_keys hpr h) (by simp)

theorem rendersIff_keys (hs : s.registry = {}) (kind : Option Text) :
    RendersIff pr (s.keys kind) fun v => s.marked v (.keys kind) := by
  cases kind with
  | none =>
    refine rendersIff_keysOutcome hpr fun p hp => ?_
    rw [hs] at hp
    obtain ⟨c, -, rfl⟩ := List.mem_map.mp hp
    exact bare_namesOf c
  | some kind =>
    cases hkind : KeyClass.ofName? (lower kind) with
    | some c =>
      simp only [Service.keys, Service.marked, hkind]
      refine rendersIff_keysOutcome hpr fun p hp => ?_
      rw [List.mem_singleton.mp hp, hs]
      exact bare_namesOf c
    | none =>
      simp only [Service.keys, Service.marked, hkind]
      refine rendersIff_withLeaf hpr rfl (by decide) (by simp) (succeeds_ok _) fun v => ?_
      have hchoices : Untagged ("    " ++ "choices".toList ++ ": "
          ++ (Json.texts (KeyClass.all.map KeyClass.name)).display) := by
        decide +kernel
      rw [succeeds_body_failure_iff hpr]
      simp only [List.forall_mem_singleton, hpr.untagged hchoices, implies_true, and_true]

theorem answer_rendersIff_of_lawful (hs : s.registry = {}) (r : Request)
    (ho : s.answer r = .ok o) : RendersIff pr o fun v => s.marked v r := by
  cases r with
  | lintText text path cap floor =>
    obtain ⟨⟨o, events⟩, hp, rfl⟩ := map_eq_ok_iff.mp ho
    exact rendersIff_lintText hpr hp
  | lintPaths tree paths cap floor =>
    obtain ⟨⟨o, events⟩, hp, rfl⟩ := map_eq_ok_iff.mp ho
    exact rendersIff_lintPaths hpr hp
  | locate text structName fieldName key =>
    obtain rfl := Except.ok.inj ho
    exact rendersIff_locate hpr text structName fieldName key
  | report text uri cap =>
    obtain rfl := Except.ok.inj ho
    exact rendersIff_report hpr text uri cap
  | keys kind =>
    obtain rfl := Except.ok.inj ho
    exact rendersIff_keys hpr hs kind

end Lawful

theorem render_full_report (text uri : Text) (cap : Option Int) :
    let ds := s.editorDiagnostics text cap
    pr.render .full (s.reportText text uri cap)
      = (reportLines pr uri ds (markedMessages ds)).map page := by
  intro ds
  rw [render_full, Service.reportText, body_withSpan, ← report_eq s.report]
  rfl

/-- A size that reads as an opening tag. -/
def openingTag : Text := "type A struct \x7b\n N int \x60gorm:\"size:[x]\"\x60\n\x7d".toList

/-- A size that reads as a closing tag. -/
def closingTag : Text := "type A struct \x7b\n N int \x60gorm:\"size:[/x]\"\x60\n\x7d".toList

end Render
end TagLint
