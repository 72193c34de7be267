import TagLint.Proofs.FileTree.Resolve
import TagLint.Proofs.FileTree.Walk
import TagLint.Proofs.Service.Hooks

/-! The collection of files: which files the arguments stand for, each of them once, and in which
order. -/
namespace TagLint
open Text

variable {t tree : FileTree} {sel : FileTree.Selection} {s : Service} {asked : Option Text}
  {a : Text} {dir real : List Text} {p file : Path} {arguments : List Text}

namespace FileTree

/-! ## Arguments -/

theorem isFile_iff : t.isFile p ↔ ∃ place bytes, t.stat p = .ok (place, .file bytes) := by
  rw [isFile]
  split
  · rename_i place bytes h
    exact iff_of_true rfl ⟨place, bytes, h⟩
  · rename_i hnone
    exact iff_of_false (by simp) fun ⟨place, bytes, h⟩ => hnone place bytes h

/-- What an argument stands for, by where it leads: a file, or what a walk of the directory
takes. -/
inductive Reaches (t : FileTree) (sel : Selection) (a : Text) : List Text → Prop
  | file (hfile : t.isFile (.ofText a)) : Reaches t sel a (t.resolve (.ofText a))
  | entry {dir subs : List Text} {name : Text} (hdir : t.stat (.ofText a) = .ok (dir, .dir))
    (hselected : t.Selected sel dir (.ofText a) subs name) :
    Reaches t sel a (t.resolve ((Path.ofText a).below (subs ++ [name])))

/-- What an argument lists. -/
def listed (t : FileTree) (sel : Selection) (a : Text) : List Path := (t.expand? sel a).getD []

theorem listed_of_isFile (h : t.isFile (.ofText a)) : t.listed sel a = [.ofText a] := by
  obtain ⟨place, bytes, hstat⟩ := isFile_iff.mp h
  simp only [listed, expand?, hstat, Option.getD_some]

theorem listed_of_dir (h : t.stat (.ofText a) = .ok (dir, .dir)) :
    t.listed sel a = t.listing sel dir (.ofText a) := by
  simp only [listed, expand?, h, Option.getD_some]
  rfl

theorem isNone_expand? (t : FileTree) (sel : Selection) (a : Text) :
    (t.expand? sel a).isNone = (!t.isFile (.ofText a) && !t.isDir (.ofText a)) := by
  simp only [expand?, isFile, isDir]
  split <;> simp_all

theorem exists_mem_listed_iff :
    (∃ p ∈ t.listed sel a, t.resolve p = real) ↔ t.Reaches sel a real := by
  constructor
  · rintro ⟨p, hp, rfl⟩
    simp only [listed, expand?] at hp
    split at hp
    · rename_i place bytes hstat
      obtain rfl := List.mem_singleton.mp hp
      exact .file (isFile_iff.mpr ⟨place, bytes, hstat⟩)
    · rename_i dir hstat
      obtain ⟨subs, name, hselected, rfl⟩ := mem_listing_iff.mp hp
      exact .entry hstat hselected
    · cases hp
  · intro h
    cases h with
    | file hfile =>
      refine ⟨.ofText a, ?_, rfl⟩
      rw [listed_of_isFile hfile]
      exact List.mem_cons_self
    | entry hdir hselected =>
      refine ⟨_, ?_, rfl⟩
      rw [listed_of_dir hdir]
      exact hselected.mem_listing

/-! ## All arguments -/

/-- The listing is walked in order: the files of a directory by name, then its subdirectories by
name, each with all that it lists. -/
def ListsInOrder (t : FileTree) (sel : Selection) : Prop := ∀ dir shown, ∃ files dirs : List Text,
  t.listing sel dir shown
    = files.map shown.child ++ dirs.flatMap (fun name =>
      t.listing sel (dir ++ [name]) (shown.child name)) ∧
  files.Pairwise (· < ·) ∧ (∀ name, name ∈ files ↔ t.Selected sel dir shown [] name) ∧
  dirs.Pairwise (· < ·) ∧ ∀ name, name ∈ dirs ↔ t.lookup? (dir ++ [name]) = some .dir ∧
    name ∉ sel.excludedDirs

theorem listsInOrder (t : FileTree) (sel : Selection) : t.ListsInOrder sel := fun dir shown =>
  ⟨t.filesOf sel dir shown, t.dirsOf sel dir, listing_eq t sel dir shown,
    pairwise_filesOf t sel dir shown,
    fun _ => mem_filesOf_iff, pairwise_dirsOf t sel dir, fun _ => mem_dirsOf_iff⟩

/-- Of what the arguments list, the first path to each place is kept. -/
structure KeepsFirst (t : FileTree) (listed files : List Path) : Prop where
  sublist : files.Sublist listed
  places : files.map t.resolve = (listed.map t.resolve).eraseDups
  first : ∀ p ∈ files, listed.find? (fun q => t.resolve q = t.resolve p) = some p

theorem keepsFirst_dropRepeated (t : FileTree) (ps : List Path) :
    t.KeepsFirst ps (t.dropRepeated [] ps) := by
  refine ⟨dropRepeated_sublist t [] ps, ?_, fun p hp => find?_of_mem_dropRepeated hp⟩
  rw [map_resolve_dropRepeated, List.filter_eq_self.mpr (by simp)]

theorem mem_places_iff (t : FileTree) (sel : Selection) (arguments : List Text) (real : List Text) :
    real ∈ (t.collect sel arguments).1.map t.resolve ↔ ∃ a ∈ arguments, t.Reaches sel a real := by
  have hplaces := (keepsFirst_dropRepeated t (arguments.flatMap (t.listed sel))).places
  change real ∈ (t.dropRepeated [] (arguments.flatMap (t.listed sel))).map t.resolve ↔ _
  rw [hplaces, List.mem_eraseDups, List.mem_map]
  constructor
  · rintro ⟨p, hp, hreal⟩
    obtain ⟨a, ha, hp⟩ := List.mem_flatMap.mp hp
    exact ⟨a, ha, exists_mem_listed_iff.mp ⟨p, hp, hreal⟩⟩
  · rintro ⟨a, ha, hreaches⟩
    obtain ⟨p, hp, hreal⟩ := exists_mem_listed_iff.mpr hreaches
    exact ⟨p, List.mem_flatMap.mpr ⟨a, ha, hp⟩, hreal⟩

end FileTree

namespace Service

/-! ## What is said of the arguments -/

def isMissingWarning (w : Text) : Bool := "Path not found: ".toList.isPrefixOf w

theorem isMissingWarning_append (a : Text) :
    isMissingWarning ("Path not found: ".toList ++ a) = true :=
  List.isPrefixOf_iff_prefix.mpr (List.prefix_append _ a)

/-- What is said of a file is said in other words. -/
theorem isMissingWarning_of_mem_share {w : Text} (hw : w ∈ (s.share tree asked file).warnings) :
    isMissingWarning w = false := by
  cases hread : tree.read file file.toText with
  | error e =>
    rw [share_of_error hread] at hw
    obtain rfl := List.mem_singleton.mp hw
    rfl
  | ok text =>
    simp only [share, hread] at hw
    cases hhost : s.host with
    | none =>
      simp only [afterLint, hhost] at hw
      cases hw
    | some h =>
      rw [afterLint_of_host hhost, Host.complaints] at hw
      split at hw
      · obtain rfl := List.mem_singleton.mp hw
        rfl
      · cases hw

theorem warnings_started (s : Service) (tree : FileTree) (arguments : List Text) :
    (s.started tree arguments).warnings = (arguments.filter fun a =>
      !tree.isFile (.ofText a) && !tree.isDir (.ofText a)).map
        ("Path not found: ".toList ++ ·) := by
  simp only [started, FileTree.collect, FileTree.isNone_expand?]

/-- Linting of files warns of each argument that leads to no file and no directory. -/
theorem missing_of_lintPaths {cap : Option Int} {o : Outcome} {events : List LintEvent}
    (hrun : s.lintPaths tree arguments cap asked = .ok (o, events)) :
    o.warnings.filter isMissingWarning = (arguments.filter fun a =>
      !tree.isFile (.ofText a) && !tree.isDir (.ofText a)).map
        ("Path not found: ".toList ++ ·) := by
  have hothers :
      ((s.collected tree arguments).flatMap fun file => (s.share tree asked file).warnings).filter
      isMissingWarning = [] := by
    rw [List.filter_eq_nil_iff]
    intro w hw
    obtain ⟨file, -, hw⟩ := List.mem_flatMap.mp hw
    rw [isMissingWarning_of_mem_share hw]
    exact Bool.false_ne_true
  have hmissing : (s.started tree arguments).warnings.filter isMissingWarning
      = (s.started tree arguments).warnings := by
    rw [List.filter_eq_self]
    intro w hw
    obtain ⟨a, -, rfl⟩ := List.mem_map.mp hw
    exact isMissingWarning_append a
  rw [lintPaths_telling] at hrun
  cases halone : s.unheard.lintPaths tree arguments cap asked with
  | error e =>
    rw [halone] at hrun
    cases hrun
  | ok alone =>
    rw [halone] at hrun
    obtain rfl := (Prod.mk.inj (Except.ok.inj hrun)).1
    change ((s.started tree arguments).warnings ++ _).filter isMissingWarning = _
    rw [List.filter_append, hmissing, hothers, List.append_nil, warnings_started]

/-- The collection of files is exact: no two paths lead to one place, and the places are those of
the files among the arguments and of what the walks of the directories take. Neither the order of
the arguments nor repetitions of them matter for that. The first path to each place stands where it
was first listed, and a directory lists its files by name before its subdirectories by name. Each
argument that leads nowhere is warned of. -/
theorem collected_exact (s : Service) (tree : FileTree) (arguments : List Text) :
    let sel : FileTree.Selection := ⟨s.lint.patterns, s.lint.excludedDirs⟩
    let files := s.collected tree arguments
    files.Pairwise (fun p q => tree.resolve p ≠ tree.resolve q) ∧
    (∀ place, place ∈ files.map tree.resolve ↔ ∃ a ∈ arguments, tree.Reaches sel a place) ∧
    (∀ others, (∀ a, a ∈ others ↔ a ∈ arguments) →
      ∀ place, place ∈ (s.collected tree others).map tree.resolve ↔
      place ∈ files.map tree.resolve) ∧
    tree.KeepsFirst (arguments.flatMap (tree.listed sel)) files ∧
    (∀ a, tree.isFile (.ofText a) → tree.listed sel a = [.ofText a]) ∧
    (∀ a dir, tree.stat (.ofText a) = .ok (dir, .dir) →
      tree.resolve (.ofText a) = dir ∧ tree.listed sel a = tree.listing sel dir (.ofText a)) ∧
    tree.ListsInOrder sel ∧
    (s.started tree arguments).warnings = (arguments.filter fun a =>
      !tree.isFile (.ofText a) && !tree.isDir (.ofText a)).map ("Path not found: ".toList ++ ·) ∧
    ∀ cap asked o events, s.lintPaths tree arguments cap asked = .ok (o, events) →
      o.warnings.filter isMissingWarning = (arguments.filter fun a =>
        !tree.isFile (.ofText a) && !tree.isDir (.ofText a)).map
          ("Path not found: ".toList ++ ·) := by
  intro sel files
  refine ⟨FileTree.pairwise_dropRepeated tree _ _, FileTree.mem_places_iff tree sel arguments, ?_,
    FileTree.keepsFirst_dropRepeated tree _, fun a => FileTree.listed_of_isFile,
    fun a dir hstat => ⟨FileTree.resolve_of_stat hstat, FileTree.listed_of_dir hstat⟩,
    FileTree.listsInOrder tree sel, warnings_started s tree arguments,
    fun cap asked o events => missing_of_lintPaths⟩
  intro others hsame place
  refine (FileTree.mem_places_iff tree sel others place).trans ?_
  simp only [hsame]
  exact (FileTree.mem_places_iff tree sel arguments place).symm

end Service
end TagLint
