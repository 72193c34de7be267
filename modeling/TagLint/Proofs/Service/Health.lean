import TagLint.Proofs.Service.Document

/-! When the linting of a text says that it found errors. -/
namespace TagLint
open Text

variable {s : Service} {text path : Text} {cap : Option Int} {asked : Option Text} {f : Severity}
  {ds : List Diagnostic} {i n : Nat}

def Diagnostic.isError (d : Diagnostic) : Bool := d.severity = .error

/-- The flag for errors is down, and they are counted. -/
structure Outcome.Unhealthy (o : Outcome) : Prop where
  healthy : Json.lookup? "healthy".toList o.data = some (.bool false)
  errors : ∃ k, 0 < k ∧ Json.lookup? "error_count".toList o.data = some (.nat k)

namespace LintSummary

theorem errorCount_of_diagnostics {summary : LintSummary}
    (h : summary.diagnostics = ds.map (⟨·, path⟩)) :
    summary.errorCount = ds.countP Diagnostic.isError := by
  rw [errorCount, h, List.countP_map]
  rfl

/-- An outcome is unhealthy exactly when an error is listed in it. -/
theorem unhealthy_iff {summary : LintSummary} (h : summary.diagnostics = ds.map (⟨·, path⟩))
    {o : Outcome} (ho : o.data = summary.data) : o.Unhealthy ↔ ∃ d ∈ ds, d.isError := by
  have hcount := errorCount_of_diagnostics h
  rw [← List.countP_pos_iff, ← hcount]
  constructor
  · rintro ⟨-, k, hk, herrors⟩
    rw [ho] at herrors
    have : (summary.errorCount : Int) = k := Json.int.inj (Option.some.inj herrors)
    omega
  · intro hpos
    refine ⟨?_, summary.errorCount, hpos, by rw [ho]; rfl⟩
    have hflag : summary.isHealthy = false := by
      rw [isHealthy, beq_eq_false_iff_ne]
      omega
    rw [ho, ← hflag]
    rfl

end LintSummary

/-- The first error is among the first `n` when its index is less. -/
theorem exists_error_take_iff (hi : ds.findIdx? Diagnostic.isError = some i) :
    (∃ d ∈ ds.take n, d.isError) ↔ i < n := by
  obtain ⟨hlt, herror, hbefore⟩ := List.findIdx?_eq_some_iff_getElem.mp hi
  constructor
  · rintro ⟨d, hd, hd'⟩
    obtain ⟨j, hj, rfl⟩ := List.mem_iff_getElem.mp hd
    rw [List.length_take] at hj
    rw [List.getElem_take] at hd'
    by_cases hij : i ≤ j
    · omega
    · exact absurd hd' (hbefore j (by omega))
  · intro hn
    refine ⟨ds[i], ?_, herror⟩
    exact List.mem_take_iff_getElem.mpr ⟨i, by omega, rfl⟩

namespace Service

theorem exists_error_passing_iff (hi : ds.findIdx? Diagnostic.isError = some i) (hn : 1 ≤ n) :
    (∃ d ∈ (passing f ds).take n, d.isError) ↔ f = .error ∨ i < n := by
  cases f with
  | warning => simpa [passing] using exists_error_take_iff hi
  | error =>
    obtain ⟨hlt, herror, -⟩ := List.findIdx?_eq_some_iff_getElem.mp hi
    have hmem : ds[i] ∈ passing .error ds := List.mem_filter.mpr ⟨List.getElem_mem hlt, herror⟩
    simp only [true_or, iff_true]
    obtain ⟨d, rest, hsplit⟩ := List.exists_cons_of_ne_nil (List.ne_nil_of_mem hmem)
    have hd : d ∈ passing .error ds := by rw [hsplit]; exact List.mem_cons_self
    refine ⟨d, ?_, (List.mem_filter.mp hd).2⟩
    rw [hsplit, List.take_cons hn]
    exact List.mem_cons_self

/-- A text with errors is reported as unhealthy exactly when the floor leaves only errors, or when
its first error is not behind the cap. -/
theorem lintText_unhealthy_iff (hf : s.floor asked = .ok f) (hn : 1 ≤ s.limit cap)
    (hi : (validateStructs s.registry (structs text)).findIdx? Diagnostic.isError = some i)
    (path : Text) :
    ∃ o events, s.lintText text path cap asked = .ok (o, events)
      ∧ (o.Unhealthy ↔ f = .error ∨ (i : Int) < s.limit cap) := by
  obtain ⟨n, hlimit⟩ := Int.eq_ofNat_of_zero_le (Int.le_trans (by decide) hn)
  obtain ⟨o, events, hrun, hdata⟩ := lintText_data hf hlimit text path
  refine ⟨o, events, hrun, ?_⟩
  rw [LintSummary.unhealthy_iff rfl hdata, hlimit, Int.ofNat_lt]
  exact exists_error_passing_iff hi (by omega)

/-- A warning, then an error, on one field. -/
def warningThenError : Text :=
  "type A struct \x7b\n N int \x60gorm:\"comment:;size:x\"\x60\n\x7d".toList

theorem isError_warningThenError :
    (validateStructs {} (structs warningThenError)).map Diagnostic.isError = [false, true] := by
  decide +kernel

theorem lintText_unhealthy_of_two :
    ∃ o events, ({} : Service).lintText warningThenError stdinPath (some 2) = .ok (o, events)
      ∧ o.Unhealthy := by
  have hf : ({} : Service).floor none = .ok .warning := rfl
  have hn : 1 ≤ ({} : Service).limit (some 2) := by decide
  have hi : (validateStructs {} (structs warningThenError)).findIdx? Diagnostic.isError
      = some 1 := by
    have h := congrArg (List.findIdx? id) isError_warningThenError
    rwa [List.findIdx?_map] at h
  obtain ⟨o, events, hrun, hiff⟩ := lintText_unhealthy_iff hf hn hi stdinPath
  exact ⟨o, events, hrun, hiff.mpr (.inr (by decide))⟩

/-- With a cap of one the warning hides the error. -/
theorem lintText_healthy_of_one :
    (∃ d ∈ validateStructs {} (structs warningThenError), d.isError)
      ∧ ∃ o events, ({} : Service).lintText warningThenError stdinPath (some 1) = .ok (o, events)
        ∧ Json.lookup? "healthy".toList o.data = some (.bool true) := by
  have hf : ({} : Service).floor none = .ok .warning := rfl
  have hn : ({} : Service).limit (some 1) = (1 : Nat) := rfl
  obtain ⟨o, events, hrun, hdata⟩ := lintText_data hf hn warningThenError stdinPath
  refine ⟨?_, o, events, hrun, ?_⟩
  · have hmem : true ∈ (validateStructs {} (structs warningThenError)).map Diagnostic.isError := by
      rw [isError_warningThenError]
      decide
    exact List.mem_map.mp hmem
  · have hnone : ((validateStructs {} (structs warningThenError)).take 1).countP Diagnostic.isError
        = 0 := by
      have h := congrArg (fun l => (l.take 1).countP id) isError_warningThenError
      rwa [← List.map_take, List.countP_map] at h
    have hflag : (({} : Service).textSummary .warning 1 warningThenError stdinPath).isHealthy
        = true := by
      rw [LintSummary.isHealthy, LintSummary.errorCount_of_diagnostics rfl]
      exact beq_iff_eq.mpr hnone
    rw [hdata, ← hflag]
    rfl

end Service
end TagLint
