import TagLint.Service.Lint

/-! What the linting of one text gives. -/
namespace TagLint.Service
open Text

variable {s : Service} {cap : Option Int} {asked : Option Text} {f : Severity} {n : Nat}

theorem withSpan_data (s : Service) (span : Span) (o : Outcome) :
    (s.withSpan span o).data = o.data := by
  rw [withSpan]
  split <;> rfl

theorem withSpan_ok (s : Service) (span : Span) (o : Outcome) : (s.withSpan span o).ok = o.ok := by
  rw [withSpan]
  split <;> rfl

theorem withSpan_warnings (s : Service) (span : Span) (o : Outcome) :
    (s.withSpan span o).warnings = o.warnings := by
  rw [withSpan]
  split <;> rfl

theorem capped_natCast (n : Nat) (ds : List Diagnostic) : capped n ds = ds.take n := by
  have hneg : ¬ (n : Int) < 0 := by omega
  simp [capped, slice, hneg]

/-! ## Floor and cap -/

/-- The floor that is asked for by its name; without a name it is that of the settings. -/
def floorFor? (s : Service) : Option Text → Option Severity
  | none => some s.lint.minSeverity
  | some t =>
    if t = [] then some s.lint.minSeverity
    else if t = "error".toList then some .error
    else if t = "warning".toList then some .warning
    else none

theorem floor_eq_ok_iff : s.floor asked = .ok f ↔ s.floorFor? asked = some f := by
  cases asked with
  | none => simp [floor, floorFor?]
  | some t =>
    cases t with
    | nil => simp [floor, floorFor?]
    | cons c cs =>
      have hfound : Severity.ofName? (c :: cs) = if c :: cs = "error".toList then some .error
          else if c :: cs = "warning".toList then some .warning else none := by
        by_cases herror : c :: cs = "error".toList
        · rw [herror]
          rfl
        · by_cases hwarning : c :: cs = "warning".toList
          · rw [hwarning]
            rfl
          · rw [if_neg herror, if_neg hwarning, Severity.ofName?, List.find?_eq_none]
            simp only [List.forall_mem_cons, decide_eq_true_eq]
            exact ⟨fun h => herror h.symm, fun h => hwarning h.symm, by simp⟩
      rw [floor, floorFor?, Option.getD_some, if_neg (List.cons_ne_nil c cs), ← hfound]
      dsimp only
      cases Severity.ofName? (c :: cs) <;> simp

/-- What passes a floor: under that of errors only errors, under that of warnings all. -/
def reaching (floor : Severity) (ds : List Diagnostic) : List Diagnostic :=
  ds.filter fun d => floor = .warning ∨ d.severity = .error

theorem passing_eq (f : Severity) (ds : List Diagnostic) : passing f ds = reaching f ds := by
  cases f with
  | error => simp [passing, reaching]
  | warning => exact (List.filter_eq_self.mpr fun _ _ => rfl).symm

/-- As many as a cap allows; a negative one leaves out as many at the end. -/
def upTo (cap : Int) (ds : List Diagnostic) : List Diagnostic :=
  ds.take (if 0 ≤ cap then cap.toNat else ds.length - cap.natAbs)

theorem capped_eq (cap : Int) (ds : List Diagnostic) : capped cap ds = upTo cap ds := by
  by_cases hcap : 0 ≤ cap
  · have hneg : ¬ cap < 0 := by omega
    simp [capped, slice, upTo, hcap, hneg]
  · have hneg : cap < 0 := by omega
    have hlength : (cap + ds.length).toNat = ds.length - cap.natAbs := by omega
    simp [capped, slice, upTo, hcap, hneg, hlength]

/-- The diagnostics of a text that pass the floor asked for, up to the cap. -/
def keptUpTo (s : Service) (limit : Int) (asked : Option Text) (text : Text) : List Diagnostic :=
  match s.floorFor? asked with
  | some f => upTo limit (reaching f (s.document text).1)
  | none => []

theorem keptUpTo_eq (hf : s.floor asked = .ok f) (limit : Int) (text : Text) :
    s.keptUpTo limit asked text = capped limit (passing f (s.document text).1) := by
  rw [keptUpTo, floor_eq_ok_iff.mp hf, capped_eq, passing_eq]

/-! ## One text -/

theorem lintText_eq (hf : s.floor asked = .ok f) (text path : Text) (cap : Option Int) :
    let kept := s.keptUpTo (s.limit cap) asked text
    let summary : LintSummary :=
      ⟨kept.map (⟨·, path⟩), s.limit cap < (passing f (s.document text).1).length,
        (s.document text).2, [path]⟩
    let span : Span :=
      { name := "LintService.lint_text", counts := documentCounts (s.document text).2 kept.length }
    s.lintText text path cap asked
      = .ok (s.withSpan span (summary.outcome (s.afterLint path kept).2),
        (s.afterLint path kept).1) := by
  simp only [keptUpTo_eq hf, lintText, hf]
  rfl

/-- The summary of a text: what passes the floor, up to the cap. -/
def textSummary (s : Service) (f : Severity) (n : Nat) (text path : Text) : LintSummary :=
  let (all, structs) := s.document text
  ⟨((passing f all).take n).map (⟨·, path⟩), n < (passing f all).length, structs, [path]⟩

/-- With a floor that is known, every text is linted. -/
theorem exists_lintText (hf : s.floor asked = .ok f) (hn : s.limit cap = (n : Int))
    (text path : Text) :
    ∃ span warnings events, s.lintText text path cap asked
      = .ok (s.withSpan span ((s.textSummary f n text path).outcome warnings), events) := by
  have hsummary : s.textSummary f n text path =
      ⟨(capped n (passing f (s.document text).1)).map (⟨·, path⟩),
        (n : Int) < (passing f (s.document text).1).length, (s.document text).2, [path]⟩ := by
    rw [capped_natCast]
    simp only [textSummary, Int.ofNat_lt]
  rw [lintText, hf, hn, hsummary]
  exact ⟨_, _, _, rfl⟩

theorem lintText_data (hf : s.floor asked = .ok f) (hn : s.limit cap = (n : Int))
    (text path : Text) :
    ∃ o events, s.lintText text path cap asked = .ok (o, events)
      ∧ o.data = (s.textSummary f n text path).data := by
  obtain ⟨span, warnings, events, hrun⟩ := exists_lintText hf hn text path
  exact ⟨_, _, hrun, withSpan_data _ _ _⟩

end TagLint.Service
