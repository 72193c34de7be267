import Mathlib.Algebra.Ring.Nat
import Mathlib.Data.List.Basic
import TagLint.Proofs.Service.Paths
import TagLint.Proofs.Service.SpanTotals

/-! What the linting of files gathers: the sum of what each file adds, with a cap on the
diagnostics. -/
namespace TagLint
open Text

variable {s : Service} {tree : FileTree} {asked : Option Text} {file : Path} {files : List Path}
  {text : Text} {n : Nat} {warnings paths paths' : List Text} {items items' : List Placed}
  {e : FileTree.ReadError} {p p' : Service.Progress} {shares : List Service.Progress} {x : Placed}

/-- The warning for a file that cannot be read. -/
def FileTree.readWarning? (tree : FileTree) (file : Path) : Option Text :=
  match tree.read file file.toText with
  | .ok _ => none
  | .error e => some ("Failed to read " ++ file.toText ++ ": " ++ e.message)

def isReadWarning (w : Text) : Bool := "Failed to read ".toList.isPrefixOf w

/-! ## Items file by file -/

/-- The items of one file stand together, in the order of the files, and there are no others. -/
def Grouped (paths : List Text) (items : List Placed) : Prop :=
  items = paths.flatMap fun path => items.filter (·.path = path)

theorem Grouped.path_mem (h : Grouped paths items) (hx : x ∈ items) : x.path ∈ paths := by
  rw [h] at hx
  obtain ⟨path, hpath, hx⟩ := List.mem_flatMap.mp hx
  have heq : x.path = path := of_decide_eq_true (List.mem_filter.mp hx).2
  rwa [heq]

theorem grouped_nil (paths : List Text) : Grouped paths [] := by
  rw [Grouped]
  simp

theorem grouped_of_one {path : Text} (h : ∀ x ∈ items, x.path = path) : Grouped [path] items := by
  rw [Grouped, List.flatMap_singleton, List.filter_eq_self.mpr fun x hx => decide_eq_true (h x hx)]

theorem Grouped.filter_eq_nil (h : Grouped paths items) {path : Text} (hpath : path ∉ paths) :
    items.filter (·.path = path) = [] := by
  rw [List.filter_eq_nil_iff]
  intro x hx heq
  exact hpath (of_decide_eq_true heq ▸ h.path_mem hx)

theorem Grouped.append (h : Grouped paths items) (h' : Grouped paths' items')
    (hdisjoint : ∀ a ∈ paths, a ∉ paths') :
    Grouped (paths ++ paths') (items ++ items') := by
  have hleft : paths.flatMap (fun path => (items ++ items').filter (·.path = path)) = items := by
    refine .trans ?_ h.symm
    apply List.flatMap_congr
    intro path hpath
    rw [List.filter_append, h'.filter_eq_nil (hdisjoint path hpath), List.append_nil]
  have hright : paths'.flatMap (fun path => (items ++ items').filter (·.path = path)) = items' := by
    refine .trans ?_ h'.symm
    apply List.flatMap_congr
    intro path hpath
    rw [List.filter_append, h.filter_eq_nil fun hmem => hdisjoint path hmem hpath, List.nil_append]
  rw [Grouped, List.flatMap_append, hleft, hright]

namespace Service

/-! ## The share of one file -/

/-- The diagnostics of a text that a single file may list. -/
def keptOf (s : Service) (asked : Option Text) (text : Text) : List Diagnostic :=
  s.keptUpTo s.lint.maxProblems asked text

theorem keptOf_eq {f : Severity} (hf : s.floor asked = .ok f) (text : Text) :
    s.keptOf asked text = s.fileDiagnostics f text :=
  keptUpTo_eq hf _ text

/-- What a file adds when there is room for all of it. -/
def share (s : Service) (tree : FileTree) (asked : Option Text) (file : Path) : Progress :=
  match tree.read file file.toText with
  | .error e => { warnings := ["Failed to read " ++ file.toText ++ ": " ++ e.message] }
  | .ok text =>
    let kept := s.keptOf asked text
    let structs := (s.document text).2
    let (events, warnings) := s.afterLint file.toText kept
    { summary := ⟨kept.map (⟨·, file.toText⟩), false, structs, [file.toText]⟩
      warnings
      spans := [{ name := "lint:" ++ file.name, counts := documentCounts structs kept.length }]
      events }

/-- The files that can be read. -/
def linted (tree : FileTree) (files : List Path) : List Path :=
  files.filter fun file => (tree.readWarning? file).isNone

/-- The summary of all shares without a cap. -/
def uncapped (shares : List Progress) : LintSummary :=
  ⟨shares.flatMap (·.summary.diagnostics), false, (shares.map (·.summary.structs)).sum,
    shares.flatMap (·.summary.files)⟩

/-- What has been gathered is the sum of the shares; only the diagnostics are capped. -/
structure Gathered (n : Nat) (warnings : List Text) (shares : List Progress)
    (p : Progress) : Prop where
  shows : Shows n (uncapped shares).diagnostics p.summary
  structs : p.summary.structs = (uncapped shares).structs
  files : p.summary.files = (uncapped shares).files
  warnings : p.warnings = warnings ++ shares.flatMap (·.warnings)
  spans : p.spans = shares.flatMap (·.spans)

theorem share_of_error (hread : tree.read file file.toText = .error e) :
    s.share tree asked file
      = { warnings := ["Failed to read " ++ file.toText ++ ": " ++ e.message] } := by
  rw [share, hread]

/-- The cap has no say in the spans. -/
theorem spans_addFile {limit : Int} (hp : s.addFile tree limit asked p file = .ok p') :
    p'.spans = p.spans ++ (s.share tree asked file).spans := by
  cases hread : tree.read file file.toText with
  | error e =>
    simp only [addFile, hread] at hp
    obtain rfl := Except.ok.inj hp
    rw [share_of_error hread, List.append_nil]
  | ok text =>
    cases hf : s.floor asked with
    | error e =>
      simp only [addFile, hread, hf] at hp
      cases hp
    | ok f =>
      simp only [addFile, hread, hf] at hp
      obtain rfl := Except.ok.inj hp
      simp only [share, hread, keptOf_eq hf]

theorem spans_addFiles {limit : Int} (hp : s.addFiles tree limit asked p files = .ok p') :
    p'.spans = p.spans ++ (files.map (s.share tree asked)).flatMap (·.spans) := by
  induction files generalizing p with
  | nil =>
    obtain rfl := Except.ok.inj hp
    simp
  | cons file files ih =>
    rw [addFiles] at hp
    cases hfirst : s.addFile tree limit asked p file with
    | error e =>
      rw [hfirst] at hp
      cases hp
    | ok q =>
      rw [hfirst] at hp
      rw [ih hp, spans_addFile hfirst, List.append_assoc, List.map_cons, List.flatMap_cons]

theorem addFile_gathered (h : Gathered n warnings shares p)
    (hp : s.addFile tree n asked p file = .ok p') :
    Gathered n warnings (shares ++ [s.share tree asked file]) p' := by
  cases hread : tree.read file file.toText with
  | error e =>
    simp only [addFile, hread] at hp
    obtain rfl := Except.ok.inj hp
    rw [share_of_error hread]
    constructor
    · simpa [uncapped] using h.shows
    · simpa [uncapped] using h.structs
    · simpa [uncapped] using h.files
    · simp [h.warnings]
    · simpa using h.spans
  | ok text =>
    cases hf : s.floor asked with
    | error e =>
      simp only [addFile, hread, hf] at hp
      cases hp
    | ok f =>
      simp only [addFile, hread, hf] at hp
      obtain rfl := Except.ok.inj hp
      simp only [share, hread, keptOf_eq hf]
      constructor
      · rw [uncapped, List.flatMap_append, List.flatMap_singleton]
        exact h.shows.add _ _ _ _
      · simp [uncapped, h.structs]
      · simp [uncapped, h.files]
      · simp [h.warnings]
      · simp [h.spans]

theorem addFiles_gathered (h : Gathered n warnings shares p)
    (hp : s.addFiles tree n asked p files = .ok p') :
    Gathered n warnings (shares ++ files.map (s.share tree asked)) p' := by
  induction files generalizing p shares with
  | nil =>
    obtain rfl := Except.ok.inj hp
    simpa using h
  | cons file files ih =>
    rw [addFiles] at hp
    cases hstep : s.addFile tree n asked p file with
    | error e =>
      rw [hstep] at hp
      cases hp
    | ok p₁ =>
      rw [hstep] at hp
      have := ih (addFile_gathered h hstep) hp
      rwa [List.append_assoc] at this

/-! ## What a share says of its file -/

theorem readWarning?_of_error (hread : tree.read file file.toText = .error e) :
    tree.readWarning? file = some ("Failed to read " ++ file.toText ++ ": " ++ e.message) := by
  rw [FileTree.readWarning?, hread]

theorem readWarning?_of_ok (hread : tree.read file file.toText = .ok text) :
    tree.readWarning? file = none := by
  rw [FileTree.readWarning?, hread]

theorem linted_cons (tree : FileTree) (file : Path) (files : List Path) :
    linted tree (file :: files) = linted tree [file] ++ linted tree files :=
  List.filter_append [file] files

theorem linted_of_error (hread : tree.read file file.toText = .error e) :
    linted tree [file] = [] := by
  simp [linted, readWarning?_of_error hread]

theorem linted_of_ok (hread : tree.read file file.toText = .ok text) :
    linted tree [file] = [file] := by
  simp [linted, readWarning?_of_ok hread]

theorem files_share (s : Service) (tree : FileTree) (asked : Option Text) (file : Path) :
    (s.share tree asked file).summary.files = (linted tree [file]).map Path.toText := by
  cases hread : tree.read file file.toText with
  | error e => rw [share_of_error hread, linted_of_error hread]; rfl
  | ok text => simp [share, hread, linted_of_ok hread]

theorem grouped_take_share (s : Service) (tree : FileTree) (asked : Option Text) (file : Path)
    (m : Nat) :
    Grouped (s.share tree asked file).summary.files
      ((s.share tree asked file).summary.diagnostics.take m) := by
  cases hread : tree.read file file.toText with
  | error e =>
    rw [share_of_error hread, List.take_nil]
    exact grouped_nil _
  | ok text =>
    simp only [share, hread]
    apply grouped_of_one
    intro x hx
    obtain ⟨d, -, rfl⟩ := List.mem_map.mp (List.mem_of_mem_take hx)
    rfl

theorem spanNames_share (s : Service) (tree : FileTree) (asked : Option Text) (file : Path) :
    (s.share tree asked file).spans.map Span.name
      = (linted tree [file]).map ("lint:".toList ++ ·.name) := by
  cases hread : tree.read file file.toText with
  | error e => rw [share_of_error hread, linted_of_error hread]; rfl
  | ok text => simp [share, hread, linted_of_ok hread]

/-- A failing hook gives a warning of another kind. -/
theorem filter_warnings_afterLint (s : Service) (path : Text) (ds : List Diagnostic) :
    (s.afterLint path ds).2.filter isReadWarning = [] := by
  rw [afterLint]
  split
  · rfl
  · dsimp only
    split <;> rfl

theorem filter_warnings_share (s : Service) (tree : FileTree) (asked : Option Text) (file : Path) :
    (s.share tree asked file).warnings.filter isReadWarning
      = [file].filterMap tree.readWarning? := by
  cases hread : tree.read file file.toText with
  | error e =>
    rw [share_of_error hread, List.filterMap_cons_some (readWarning?_of_error hread)]
    rfl
  | ok text =>
    rw [List.filterMap_cons_none (readWarning?_of_ok hread), share, hread]
    exact filter_warnings_afterLint _ _ _

theorem unique_documentCounts (structs diagnostics : Nat) :
    Span.Unique (documentCounts structs diagnostics) := by
  change ["files".toList, "structs".toList, "diagnostics".toList].Nodup
  decide

theorem leaf_of_mem_spans_share {t : Span} (ht : t ∈ (s.share tree asked file).spans) :
    t.children = [] ∧ Span.Unique t.counts := by
  cases hread : tree.read file file.toText with
  | error e =>
    rw [share_of_error hread] at ht
    cases ht
  | ok text =>
    simp only [share, hread, List.mem_singleton] at ht
    subst t
    exact ⟨rfl, unique_documentCounts _ _⟩

/-- What the spans of a share count. -/
structure Counted (spans : List Span) (m : LintSummary) : Prop where
  files : (spans.map fun t => Span.countOf "files".toList t.counts).sum = m.files.length
  structs : (spans.map fun t => Span.countOf "structs".toList t.counts).sum = m.structs
  diagnostics : (spans.map fun t => Span.countOf "diagnostics".toList t.counts).sum
    = m.diagnostics.length

theorem counted_share (s : Service) (tree : FileTree) (asked : Option Text) (file : Path) :
    Counted (s.share tree asked file).spans (s.share tree asked file).summary := by
  cases hread : tree.read file file.toText with
  | error e =>
    rw [share_of_error hread]
    exact ⟨rfl, rfl, rfl⟩
  | ok text =>
    simp only [share, hread]
    refine ⟨rfl, ?_, ?_⟩
    · exact Int.add_zero _
    · rw [List.length_map]
      exact Int.add_zero _

/-! ## All shares -/

theorem files_uncapped (s : Service) (tree : FileTree) (asked : Option Text) (files : List Path) :
    (uncapped (files.map (s.share tree asked))).files = (linted tree files).map Path.toText := by
  induction files with
  | nil => rfl
  | cons file files ih =>
    change (s.share tree asked file).summary.files
        ++ (uncapped (files.map (s.share tree asked))).files = _
    rw [ih, linted_cons, List.map_append, files_share]

theorem spanNames_shares (s : Service) (tree : FileTree) (asked : Option Text) (files : List Path) :
    ((files.map (s.share tree asked)).flatMap (·.spans)).map Span.name
      = (linted tree files).map ("lint:".toList ++ ·.name) := by
  induction files with
  | nil => rfl
  | cons file files ih =>
    rw [List.map_cons, List.flatMap_cons, List.map_append, ih, linted_cons, List.map_append,
      spanNames_share]

theorem filter_warnings_shares (s : Service) (tree : FileTree) (asked : Option Text)
    (files : List Path) :
    ((files.map (s.share tree asked)).flatMap (·.warnings)).filter isReadWarning
      = files.filterMap tree.readWarning? := by
  induction files with
  | nil => rfl
  | cons file files ih =>
    rw [List.map_cons, List.flatMap_cons, List.filter_append, ih, filter_warnings_share,
      ← List.filterMap_append]
    rfl

theorem counted_uncapped (s : Service) (tree : FileTree) (asked : Option Text) (files : List Path) :
    let shares := files.map (s.share tree asked)
    Counted (shares.flatMap (·.spans)) (uncapped shares) := by
  induction files with
  | nil => exact ⟨rfl, rfl, rfl⟩
  | cons file files ih =>
    have hshare := counted_share s tree asked file
    simp only [List.map_cons, List.flatMap_cons]
    constructor
    · rw [List.map_append, List.sum_append, hshare.files, ih.files]
      simp [uncapped]
    · rw [List.map_append, List.sum_append, hshare.structs, ih.structs]
      simp [uncapped]
    · rw [List.map_append, List.sum_append, hshare.diagnostics, ih.diagnostics]
      simp [uncapped]

/-- A cap cuts the list, but leaves the items of a file together. -/
theorem grouped_take_uncapped (hfiles : (uncapped (files.map (s.share tree asked))).files.Nodup)
    (m : Nat) :
    Grouped (uncapped (files.map (s.share tree asked))).files
      ((uncapped (files.map (s.share tree asked))).diagnostics.take m) := by
  induction files generalizing m with
  | nil => simpa [uncapped] using grouped_nil []
  | cons file files ih =>
    change Grouped ((s.share tree asked file).summary.files
        ++ (uncapped (files.map (s.share tree asked))).files)
      (((s.share tree asked file).summary.diagnostics
        ++ (uncapped (files.map (s.share tree asked))).diagnostics).take m)
    obtain ⟨-, hrest, hdisjoint⟩ := List.nodup_append.mp hfiles
    rw [List.take_append]
    exact (grouped_take_share s tree asked file m).append (ih hrest _) fun a ha ha' =>
      hdisjoint a ha a ha' rfl

end Service
end TagLint
