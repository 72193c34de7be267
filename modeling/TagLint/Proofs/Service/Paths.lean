import TagLint.Proofs.FileTree.Collect
import TagLint.Proofs.Service.Cap
import TagLint.Proofs.Service.Document

/-! What the linting of files lists, and what it says about the rest. -/
namespace TagLint
open Text

variable {s : Service} {tree : FileTree} {f : Severity} {asked : Option Text} {file : Path}
  {paths : List Text} {cap : Option Int} {n c : Nat} {all : List Placed} {p : Service.Progress}

/-! ## Data -/

theorem Severity.name_injective : Function.Injective Severity.name := by
  intro a b h
  cases a <;> cases b
  · rfl
  · exact absurd h (by decide)
  · exact absurd h (by decide)
  · rfl

theorem Json.ofOption_injective : Function.Injective Json.ofOption := by
  intro a b h
  cases a <;> cases b <;> simp_all [Json.ofOption]

/-- A listed diagnostic keeps all that is known about it. -/
theorem LintSummary.placedJson_injective : Function.Injective LintSummary.placedJson := by
  rintro ⟨⟨s₁, f₁, t₁, m₁, v₁, k₁⟩, p₁⟩ ⟨⟨s₂, f₂, t₂, m₂, v₂, k₂⟩, p₂⟩ h
  simp only [placedJson, Json.dict.injEq, List.cons.injEq, Prod.mk.injEq, Json.text.injEq, true_and,
    and_true] at h
  obtain ⟨rfl, rfl, rfl, rfl, hseverity, hkey, rfl⟩ := h
  rw [Severity.name_injective hseverity, Json.ofOption_injective hkey]

namespace Service

/-! ## One file after another -/

/-- The diagnostics of a file that pass the floor; none when it cannot be read. -/
def passingIn (s : Service) (tree : FileTree) (f : Severity) (file : Path) : List Placed :=
  match tree.read file file.toText with
  | .error _ => []
  | .ok text => (reaching f (s.document text).1).map (⟨·, file.toText⟩)

/-- The summary lists the first `n` of `all` and knows whether there are more. -/
structure Shows (n : Nat) (all : List Placed) (summary : LintSummary) : Prop where
  diagnostics : summary.diagnostics = all.take n
  truncated : summary.truncated = decide (n < all.length)

/-- What is shown of a file is what the room for all files allows. -/
theorem shown_eq (kept : List Diagnostic) (n m : Nat) :
    (if decide ((kept.length : Int) ≤ n - (min n m : Nat)) then kept
      else kept.take ((n : Int) - (min n m : Nat)).toNat) = kept.take (n - m) := by
  have hroom : ((n : Int) - (min n m : Nat)).toNat = n - m := by omega
  rw [hroom]
  split
  · rename_i h
    have : kept.length ≤ n - m := by
      have := of_decide_eq_true h
      omega
    rw [List.take_of_length_le this]
  · rfl

/-- What is added behind is shown as far as there is room. -/
theorem Shows.add {summary : LintSummary} (h : Shows n all summary) (kept : List Diagnostic)
    (path : Text) (structs : Nat) (files : List Text) :
    let room : Int := n - summary.count
    let fits := decide ((kept.length : Int) ≤ room)
    let shown := if fits then kept else kept.take room.toNat
    Shows n (all ++ kept.map (⟨·, path⟩))
      ⟨summary.diagnostics ++ shown.map (⟨·, path⟩), summary.truncated || !fits, structs,
        files⟩ := by
  have hcount : summary.count = min n all.length := by
    rw [LintSummary.count, h.diagnostics, List.length_take]
  constructor
  · simp only [hcount, shown_eq, h.diagnostics, List.take_append, List.map_take]
  · simp only [hcount, h.truncated, List.length_append, List.length_map]
    rw [Bool.eq_iff_iff]
    simp only [Bool.or_eq_true, Bool.not_eq_true', decide_eq_true_eq, decide_eq_false_iff_not]
    omega

/-- A file adds what the cap of a single file leaves of its diagnostics. -/
theorem addFile_shows (hf : s.floor asked = .ok f) (hc : s.lint.maxProblems = (c : Int))
    (h : Shows n all p.summary) (tree : FileTree) (file : Path) :
    ∃ p', s.addFile tree n asked p file = .ok p'
      ∧ Shows n (all ++ (s.passingIn tree f file).take c) p'.summary := by
  cases hread : tree.read file file.toText with
  | error e =>
    refine ⟨_, by simp only [addFile, hread]; rfl, ?_⟩
    simpa [passingIn, hread] using h
  | ok text =>
    refine ⟨_, by simp only [addFile, hread, hf]; rfl, ?_⟩
    have hkept : s.fileDiagnostics f text = (reaching f (s.document text).1).take c := by
      rw [fileDiagnostics, hc, capped_natCast, passing_eq]
    have hadded : (s.passingIn tree f file).take c
        = (s.fileDiagnostics f text).map (⟨·, file.toText⟩) := by
      rw [hkept, passingIn, hread, List.map_take]
    rw [hadded]
    exact h.add _ _ _ _

theorem addFiles_shows (hf : s.floor asked = .ok f) (hc : s.lint.maxProblems = (c : Int))
    (h : Shows n all p.summary) (tree : FileTree) (files : List Path) :
    ∃ p', s.addFiles tree n asked p files = .ok p'
      ∧ Shows n (all ++ cut c (files.map (s.passingIn tree f))) p'.summary := by
  induction files generalizing p all with
  | nil => exact ⟨p, rfl, by simpa [cut] using h⟩
  | cons file files ih =>
    obtain ⟨p₁, hstep, h₁⟩ := addFile_shows hf hc h tree file
    obtain ⟨p₂, hrest, h₂⟩ := ih h₁
    refine ⟨p₂, ?_, ?_⟩
    · rw [addFiles, hstep]
      exact hrest
    · rw [List.map_cons, cut_cons, ← List.append_assoc]
      exact h₂

theorem shows_nil (n : Nat) : Shows n [] ⟨[], false, 0, []⟩ := ⟨by simp, by simp⟩

/-- What the data of an outcome lists of all diagnostics, and what it says about the others. -/
structure Lists (n : Nat) (all : List Placed) (o : Outcome) : Prop where
  diagnostics : Json.lookup? "diagnostics".toList o.data
    = some (.list ((all.take n).map LintSummary.placedJson))
  truncated : Json.lookup? "truncated".toList o.data = some (.bool (decide (n < all.length)))

theorem Shows.lists {summary : LintSummary} (h : Shows n all summary) {o : Outcome}
    (ho : o.data = summary.data) : Lists n all o := by
  constructor
  · rw [ho, ← h.diagnostics]
    rfl
  · rw [ho, ← h.truncated]
    rfl

/-- The data of an outcome fit two lists at once only where these agree. -/
theorem Lists.iff {o : Outcome} (h : Lists n all o) (all' : List Placed) :
    Lists n all' o ↔ all'.take n = all.take n ∧ (n < all'.length ↔ n < all.length) := by
  constructor
  · rintro ⟨hdiagnostics, htruncated⟩
    rw [h.diagnostics] at hdiagnostics
    rw [h.truncated] at htruncated
    have hmap := Json.list.inj (Option.some.inj hdiagnostics)
    have hmore := Json.bool.inj (Option.some.inj htruncated)
    exact ⟨((List.map_inj_right fun _ _ h => LintSummary.placedJson_injective h).mp hmap).symm,
      (decide_eq_decide.mp hmore).symm⟩
  · rintro ⟨htake, hmore⟩
    exact ⟨by rw [htake]; exact h.diagnostics,
      by rw [decide_eq_decide.mpr hmore]; exact h.truncated⟩

/-- The files that the arguments stand for. -/
def collected (s : Service) (tree : FileTree) (paths : List Text) : List Path :=
  (tree.collect s.selection paths).1

/-- What the gathering starts from. -/
def started (s : Service) (tree : FileTree) (paths : List Text) : Progress :=
  { warnings := (tree.collect s.selection paths).2.map ("Path not found: ".toList ++ ·) }

theorem lintPaths_of_nil (hfiles : s.collected tree paths = []) (cap : Option Int)
    (asked : Option Text) : s.lintPaths tree paths cap asked
      = .ok (s.withSpan (pathsSpan 0 []) (.failure "lint" "NO_FILES" "No Go files found to lint"
          (s.started tree paths).warnings [("paths".toList, .texts paths)]), []) := by
  simp only [collected] at hfiles
  rw [lintPaths]
  simp only [if_pos hfiles]
  rfl

theorem lintPaths_of_ne_nil (hfiles : s.collected tree paths ≠ []) (cap : Option Int)
    (asked : Option Text) : s.lintPaths tree paths cap asked
      = (s.addFiles tree (s.limit cap) asked (s.started tree paths) (s.collected tree paths)).map
          fun p => (s.withSpan (pathsSpan (s.collected tree paths).length p.spans)
            (p.summary.outcome p.warnings), p.events) := by
  simp only [collected] at hfiles
  rw [lintPaths]
  simp only [if_neg hfiles]
  rw [started, collected]
  cases s.addFiles tree (s.limit cap) asked _ _ <;> rfl

theorem lintPaths_of_addFiles (hfiles : s.collected tree paths ≠ [])
    (hp : s.addFiles tree (s.limit cap) asked (s.started tree paths) (s.collected tree paths)
      = .ok p) :
    s.lintPaths tree paths cap asked
      = .ok (s.withSpan (pathsSpan (s.collected tree paths).length p.spans)
          (p.summary.outcome p.warnings), p.events) := by
  rw [lintPaths_of_ne_nil hfiles, hp]
  rfl

/-- Linting of files lists what both caps leave. -/
theorem lintPaths_lists (hf : s.floor asked = .ok f) (hc : s.lint.maxProblems = (c : Int))
    (hn : s.limit cap = (n : Int)) (hfiles : s.collected tree paths ≠ []) :
    ∃ o events, s.lintPaths tree paths cap asked = .ok (o, events)
      ∧ Lists n (cut c ((s.collected tree paths).map (s.passingIn tree f))) o := by
  have hstart : Shows n [] (s.started tree paths).summary := shows_nil n
  obtain ⟨p, hp, hshows⟩ := addFiles_shows hf hc hstart tree (s.collected tree paths)
  rw [← hn] at hp
  exact ⟨_, _, lintPaths_of_addFiles hfiles hp, hshows.lists (withSpan_data s _ _)⟩

theorem path_of_mem_passingIn {x : Placed} (hx : x ∈ s.passingIn tree f file) :
    x.path = file.toText := by
  simp only [passingIn] at hx
  split at hx
  · simp at hx
  · obtain ⟨d, -, rfl⟩ := List.mem_map.mp hx
    rfl

/-- No diagnostic is listed for two files. -/
theorem pairwise_passingIn (ht : tree.WellNamed) (s : Service) (f : Severity) (paths : List Text) :
    ((s.collected tree paths).map (s.passingIn tree f)).Pairwise fun l l' => ∀ x ∈ l, x ∉ l' := by
  apply List.Pairwise.map _ _ (FileTree.pairwise_toText_collect ht s.selection paths)
  intro p q hpq x hp hq
  exact hpq ((path_of_mem_passingIn hp).symm.trans (path_of_mem_passingIn hq))

/-- The result lists the first `n` of all diagnostics that pass the floor, and knows whether there
are more, exactly when no file has more than the configured cap, or when the cap for all files is
reached, and within the first diagnostics of each file that has more. -/
theorem lintPaths_lists_all_iff (ht : tree.WellNamed) (hf : s.floorFor? asked = some f)
    (hc : 1 ≤ s.lint.maxProblems) (hn : 1 ≤ s.limit cap) (hfiles : s.collected tree paths ≠ []) :
    let lists := (s.collected tree paths).map (s.passingIn tree f)
    let c := s.lint.maxProblems.toNat
    let n := (s.limit cap).toNat
    ∃ o events, s.lintPaths tree paths cap asked = .ok (o, events)
      ∧ (Lists n lists.flatten o
        ↔ (∀ l ∈ lists, l.length ≤ c) ∨ (n < (cut c lists).length ∧ Fits c n lists)) := by
  intro lists c n
  have hc : s.lint.maxProblems = (c : Int) := by omega
  have hn : s.limit cap = (n : Int) := by omega
  obtain ⟨o, events, hrun, hlists⟩ := lintPaths_lists (floor_eq_ok_iff.mpr hf) hc hn hfiles
  refine ⟨o, events, hrun, ?_⟩
  rw [hlists.iff, cut_faithful_iff (pairwise_passingIn ht s f paths)]

/-! ## A tree of one file -/

def onlyFile : Path := ⟨[], ["a.go".toList]⟩

def single (text : String) : FileTree := ⟨[(["a.go".toList], .file text.toUTF8.toList)], []⟩

theorem wellNamed_single (text : String) : (single text).WellNamed := by
  rintro e he name hname
  obtain rfl := List.mem_singleton.mp he
  obtain rfl := List.mem_singleton.mp hname
  exact ⟨by decide, by decide, by decide⟩

theorem stat_single (text : String) :
    (single text).stat onlyFile = .ok (["a.go".toList], .file text.toUTF8.toList) := by
  rw [FileTree.stat, onlyFile, FileTree.follow, if_neg (by decide)]
  rfl

theorem collect_single (s : Service) (text : String) :
    (single text).collect s.selection ["a.go".toList] = ([onlyFile], []) := by
  have hpath : Path.ofText "a.go".toList = onlyFile := by decide
  simp only [FileTree.collect, List.flatMap_cons, List.flatMap_nil, List.filter_cons,
    List.filter_nil, FileTree.expand?, hpath, stat_single]
  rfl

theorem collected_single (s : Service) (text : String) :
    s.collected (single text) ["a.go".toList] = [onlyFile] :=
  congrArg Prod.fst (collect_single s text)

theorem collected_single_ne_nil (s : Service) (text : String) :
    s.collected (single text) ["a.go".toList] ≠ [] := by
  rw [collected_single]
  exact List.cons_ne_nil _ _

/-- A file with two errors on one field. -/
def twoErrors : FileTree := single "type A struct \x7b\n N int \x60gorm:\"size:x;foo\"\x60\n\x7d"

theorem wellNamed_twoErrors : twoErrors.WellNamed := wellNamed_single _

theorem collected_twoErrors_ne_nil (s : Service) : s.collected twoErrors ["a.go".toList] ≠ [] :=
  collected_single_ne_nil s _

theorem collected_twoErrors (s : Service) : s.collected twoErrors ["a.go".toList] = [onlyFile] :=
  collected_single s _

theorem length_passingIn_twoErrors (hs : s.registry = {}) :
    (s.passingIn twoErrors .warning onlyFile).length = 2 := by
  simp only [passingIn, FileTree.read, twoErrors, stat_single, document, hs]
  decide +kernel

theorem exists_read_twoErrors : ∃ text, twoErrors.read onlyFile onlyFile.toText = .ok text ∧
    (reaching .warning (({} : Service).document text).1).length = 2 := by
  have hlength := length_passingIn_twoErrors (s := {}) rfl
  cases hread : twoErrors.read onlyFile onlyFile.toText with
  | error e => simp [passingIn, hread] at hlength
  | ok text => exact ⟨text, rfl, by simpa [passingIn, hread] using hlength⟩

/-- With the default cap for one file, the first of the two errors is listed and the other
announced. -/
theorem lintPaths_lists_first :
    ∃ o events, ({} : Service).lintPaths twoErrors ["a.go".toList] (some 1) = .ok (o, events)
      ∧ Lists 1 ((({} : Service).collected twoErrors ["a.go".toList]).map
        (({} : Service).passingIn twoErrors .warning)).flatten o := by
  have hf : ({} : Service).floorFor? none = some .warning := rfl
  have hn : 1 ≤ ({} : Service).limit (some 1) := by decide
  obtain ⟨o, events, hrun, hiff⟩ := lintPaths_lists_all_iff wellNamed_twoErrors hf (by decide) hn
    (collected_twoErrors_ne_nil {})
  refine ⟨o, events, hrun, hiff.mpr (.inl ?_)⟩
  rw [collected_twoErrors]
  intro l hl
  rw [List.mem_singleton.mp hl, length_passingIn_twoErrors rfl]
  decide

/-- With a cap of one for each file, five problems asked for are one problem listed, and the second
is not announced. -/
theorem lintPaths_drops_second :
    let s : Service := { lint := { maxProblems := 1 } }
    ∃ o events, s.lintPaths twoErrors ["a.go".toList] (some 5) = .ok (o, events)
      ∧ ¬ Lists 5
        ((s.collected twoErrors ["a.go".toList]).map (s.passingIn twoErrors .warning)).flatten
        o := by
  intro s
  have hf : s.floor none = .ok .warning := rfl
  have hc : s.lint.maxProblems = (1 : Nat) := rfl
  have hn : s.limit (some 5) = (5 : Nat) := rfl
  have hlength : (s.passingIn twoErrors .warning onlyFile).length = 2 :=
    length_passingIn_twoErrors rfl
  obtain ⟨o, events, hrun, hlists⟩ := lintPaths_lists hf hc hn (collected_twoErrors_ne_nil s)
  refine ⟨o, events, hrun, ?_⟩
  rw [hlists.iff, collected_twoErrors]
  rintro ⟨htake, -⟩
  have := congrArg List.length htake
  simp [cut, hlength] at this

end Service
end TagLint
