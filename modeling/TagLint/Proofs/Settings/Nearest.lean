import Mathlib.Data.List.Infix
import TagLint.Proofs.FileTree.Resolve
import TagLint.Settings.Discovery

/-! The settings file in effect: the nearest one at or above the start, and none from outside its
module. -/
namespace TagLint
open Text

variable {β : Type} {t : FileTree} {w : Surroundings} {p : Option Path}
  {here dir root : List Text} {name : Text} {dirs : List (List Text)} {f : List Text → Option β}
  {b : β}

namespace Discovery

/-! ## Directories above -/

/-- One directory stands above another. -/
def Above (above below : List Text) : Prop := above <+: below ∧ above ≠ below

theorem Above.not_isPrefix (h : Above dir here) : ¬ here <+: dir :=
  fun hback => h.2 (h.1.eq_of_length_le hback.length_le)

theorem above_concat (h : dir <+: here) (last : Text) : Above dir (here ++ [last]) := by
  refine ⟨h.trans (List.prefix_append here [last]), fun heq => ?_⟩
  have := h.length_le
  rw [heq, List.length_append, List.length_singleton] at this
  omega

theorem mem_ancestors_iff : dir ∈ ancestors here ↔ dir <+: here := by
  simp only [ancestors, List.mem_map, List.mem_reverse, List.mem_range]
  constructor
  · rintro ⟨n, -, rfl⟩
    exact List.take_prefix n here
  · intro h
    have := h.length_le
    exact ⟨dir.length, by omega, (List.prefix_iff_eq_take.mp h).symm⟩

theorem ancestors_concat (here : List Text) (last : Text) :
    ancestors (here ++ [last]) = (here ++ [last]) :: ancestors here := by
  have hall : (here ++ [last]).take (here.length + 1) = here ++ [last] :=
    List.take_of_length_le (by simp)
  rw [ancestors, List.length_append, List.length_singleton, List.range_succ, List.reverse_append,
    List.reverse_singleton, List.singleton_append, List.map_cons, hall, ancestors]
  congr 1
  apply List.map_congr_left
  intro n hn
  have := List.mem_range.mp (List.mem_reverse.mp hn)
  exact List.take_append_of_le_length (by omega)

/-- The walk upwards comes to each directory before those above it. -/
theorem pairwise_ancestors (here : List Text) :
    (ancestors here).Pairwise fun below above => Above above below := by
  induction here using List.reverseRecOn with
  | nil => exact List.pairwise_singleton _ _
  | append_singleton here last ih =>
    rw [ancestors_concat]
    exact .cons (fun dir hdir => above_concat (mem_ancestors_iff.mp hdir) last) ih

/-- The first answer on the way up is that of the nearest directory with an answer. -/
theorem findSome?_eq_some_iff_nearest
    (hdirs : dirs.Pairwise fun below above => Above above below) :
    dirs.findSome? f = some b
      ↔ ∃ dir ∈ dirs, f dir = some b ∧ ∀ d ∈ dirs, Above dir d → f d = none := by
  rw [List.findSome?_eq_some_iff]
  constructor
  · rintro ⟨nearer, dir, farther, rfl, hdir, hnone⟩
    refine ⟨dir, by simp, hdir, fun d hd hbelow => ?_⟩
    obtain ⟨hcons, -⟩ := List.pairwise_cons.mp (List.pairwise_append.mp hdirs).2.1
    rcases List.mem_append.mp hd with hd | hd
    · exact hnone d hd
    · rcases List.mem_cons.mp hd with rfl | hd
      · exact absurd rfl hbelow.2
      · exact absurd hbelow.1 (hcons d hd).not_isPrefix
  · rintro ⟨dir, hmem, hdir, hnone⟩
    obtain ⟨nearer, farther, rfl⟩ := List.append_of_mem hmem
    refine ⟨nearer, dir, farther, rfl, hdir, fun d hd => ?_⟩
    exact hnone d (List.mem_append_left _ hd)
      ((List.pairwise_append.mp hdirs).2.2 d hd dir List.mem_cons_self)

/-! ## The module root -/

/-- A directory has a file of this name. -/
def HasFile (t : FileTree) (dir : List Text) (name : Text) : Prop :=
  t.isFile (.ofParts (dir ++ [name]))

theorem holds_iff : holds t dir name = true ↔ HasFile t dir name := Iff.rfl

theorem holds_eq_false_iff : holds t dir name = false ↔ ¬ HasFile t dir name := by
  rw [← holds_iff, Bool.not_eq_true]

/-- The nearest directory at or above the start that has a module file. -/
structure IsModuleRoot (t : FileTree) (here root : List Text) : Prop where
  upwards : root <+: here
  isFile : HasFile t root "go.mod"
  nearest : ∀ d, d <+: here → Above root d → ¬ HasFile t d "go.mod"

theorem find?_moduleFile_eq_some_iff :
    (ancestors here).find? (holds t · moduleFile) = some root ↔ IsModuleRoot t here root := by
  rw [← List.findSome?_guard, findSome?_eq_some_iff_nearest (pairwise_ancestors _)]
  simp only [mem_ancestors_iff, Option.guard_eq_some_iff, Option.guard_eq_none_iff,
    holds_eq_false_iff]
  constructor
  · rintro ⟨dir, hdir, ⟨rfl, hholds⟩, hnone⟩
    exact ⟨hdir, hholds, hnone⟩
  · rintro ⟨hroot, hholds, hnone⟩
    exact ⟨root, hroot, ⟨rfl, hholds⟩, hnone⟩

/-- The directories at or above the start that do not lie above its module root. -/
structure InModule (t : FileTree) (here dir : List Text) : Prop where
  upwards : dir <+: here
  inside : ∀ root, IsModuleRoot t here root → root <+: dir

/-- The directories that are looked at: up to the first with a module file, and that one too. -/
def searched (t : FileTree) : List (List Text) → List (List Text)
  | [] => []
  | dir :: dirs => if holds t dir moduleFile then [dir] else dir :: searched t dirs

theorem searched_sublist (t : FileTree) (dirs : List (List Text)) :
    (searched t dirs).Sublist dirs := by
  induction dirs with
  | nil => exact .slnil
  | cons dir dirs ih =>
    rw [searched]
    split
    · exact (List.nil_sublist dirs).cons_cons dir
    · exact ih.cons_cons dir

/-- Both walks stop at one directory. -/
theorem mem_searched_iff : dir ∈ searched t (ancestors here) ↔
    dir <+: here
      ∧ ∀ root, (ancestors here).find? (holds t · moduleFile) = some root → root <+: dir := by
  -- The start is the first directory of both walks; behind it they are those from the directory
  -- above.
  induction here using List.reverseRecOn with
  | nil =>
    have hself : dir ∈ searched t (ancestors []) ↔ dir = [] := by
      rw [show ancestors [] = [[]] from rfl, searched]
      split <;> simp [searched]
    have hroot : ∀ root, (ancestors []).find? (holds t · moduleFile) = some root →
        root <+: dir := by
      intro root hroot
      rw [List.prefix_nil.mp (mem_ancestors_iff.mp (List.mem_of_find?_eq_some hroot))]
      exact List.nil_prefix
    rw [hself, List.prefix_nil, and_iff_left hroot]
  | append_singleton here last ih =>
    rw [ancestors_concat, searched, List.find?_cons, List.prefix_concat_iff]
    cases hholds : holds t (here ++ [last]) moduleFile with
    | true =>
      simp only [if_true, List.mem_singleton, Option.some.injEq, forall_eq']
      constructor
      · rintro rfl
        exact ⟨.inl rfl, List.prefix_rfl⟩
      · rintro ⟨rfl | hdir, hback⟩
        · rfl
        · exact absurd hback (above_concat hdir last).not_isPrefix
    | false =>
      simp only [Bool.false_eq_true, if_false, List.mem_cons, ih]
      constructor
      · rintro (rfl | ⟨hdir, hroot⟩)
        · refine ⟨.inl rfl, fun root hroot => ?_⟩
          exact (above_concat (mem_ancestors_iff.mp (List.mem_of_find?_eq_some hroot)) last).1
        · exact ⟨.inr hdir, hroot⟩
      · rintro ⟨hdir | hdir, hroot⟩
        · exact .inl hdir
        · exact .inr ⟨hdir, hroot⟩

theorem mem_searched_iff_inModule : dir ∈ searched t (ancestors here) ↔ InModule t here dir := by
  simp only [mem_searched_iff, find?_moduleFile_eq_some_iff]
  exact ⟨fun ⟨hup, hin⟩ => ⟨hup, hin⟩, fun ⟨hup, hin⟩ => ⟨hup, hin⟩⟩

/-! ## The settings file -/

/-- A directory without a settings file. -/
structure Bare (t : FileTree) (dir : List Text) : Prop where
  visible : ¬ HasFile t dir "gormlint.toml"
  hidden : ¬ HasFile t dir ".gormlint.toml"

/-- The settings file of a directory. -/
def own? (t : FileTree) (dir : List Text) : Option (List Text) :=
  (fileNames.find? (holds t dir)).map fun name => dir ++ [name]

theorem searchUp_eq_findSome? (t : FileTree) (dirs : List (List Text)) :
    searchUp t dirs = (searched t dirs).findSome? (own? t) := by
  induction dirs with
  | nil => rfl
  | cons dir dirs ih =>
    have hrest : (searched t (dir :: dirs)).findSome? (own? t)
        = (own? t dir).or (if holds t dir moduleFile then none else searchUp t dirs) := by
      rw [searched, ih]
      cases hown : own? t dir <;> split <;> simp [hown]
    rw [hrest, searchUp, own?]
    cases fileNames.find? (holds t dir) <;> rfl

theorem own?_eq_none_iff : own? t dir = none ↔ Bare t dir := by
  simp only [own?, fileNames, Option.map_eq_none_iff, List.find?_eq_none, List.forall_mem_cons,
    holds_iff]
  constructor
  · rintro ⟨hvisible, hhidden, -⟩
    exact ⟨hvisible, hhidden⟩
  · rintro ⟨hvisible, hhidden⟩
    exact ⟨hvisible, hhidden, by simp⟩

/-- A settings file of a directory, and the visible one whenever there is one. -/
structure Takes (t : FileTree) (dir : List Text) (name : Text) : Prop where
  known : name = "gormlint.toml" ∨ name = ".gormlint.toml"
  isFile : HasFile t dir name
  visible : HasFile t dir "gormlint.toml" → name = "gormlint.toml"

theorem find?_eq_some_iff_takes : fileNames.find? (holds t dir) = some name ↔ Takes t dir name := by
  constructor
  · intro h
    have hfile : holds t dir name = true := List.find?_some h
    refine ⟨by simpa [fileNames] using List.mem_of_find?_eq_some h, hfile, fun hvisible => ?_⟩
    rw [fileNames, List.find?_cons_of_pos (holds_iff.mpr hvisible)] at h
    exact (Option.some.inj h).symm
  · rintro ⟨rfl | rfl, hfile, hvisible⟩
    · exact List.find?_cons_of_pos hfile
    · have hnone : ¬ holds t dir "gormlint.toml" = true := fun h => absurd (hvisible h) (by decide)
      rw [fileNames, List.find?_cons_of_neg hnone]
      exact List.find?_cons_of_pos hfile

/-- The settings file of a start: its directory is in the module of the start, and no directory
nearer to the start has one. -/
structure InEffect (t : FileTree) (here dir : List Text) (name : Text) : Prop where
  inModule : InModule t here dir
  takes : Takes t dir name
  nearest : ∀ d, d <+: here → Above dir d → Bare t d

theorem searchUp_eq_some_iff {file : List Text} : searchUp t (ancestors here) = some file ↔
    ∃ dir name, InEffect t here dir name ∧ file = dir ++ [name] := by
  rw [searchUp_eq_findSome?,
    findSome?_eq_some_iff_nearest ((pairwise_ancestors _).sublist (searched_sublist t _))]
  simp only [mem_searched_iff_inModule, own?_eq_none_iff]
  constructor
  · rintro ⟨dir, hmodule, hown, hnone⟩
    obtain ⟨name, hname, rfl⟩ := Option.map_eq_some_iff.mp hown
    refine ⟨dir, name, ⟨hmodule, find?_eq_some_iff_takes.mp hname, fun d hd hbelow => ?_⟩, rfl⟩
    -- What stands below a directory of the module is in the module too.
    exact hnone d ⟨hd, fun root hroot => (hmodule.inside root hroot).trans hbelow.1⟩ hbelow
  · rintro ⟨dir, name, h, rfl⟩
    refine ⟨dir, h.inModule, ?_, fun d hd hbelow => h.nearest d hd.upwards hbelow⟩
    rw [own?, find?_eq_some_iff_takes.mpr h.takes]
    rfl

theorem searchUp_eq_none_iff :
    searchUp t (ancestors here) = none ↔ ∀ dir, InModule t here dir → Bare t dir := by
  rw [searchUp_eq_findSome?, List.findSome?_eq_none_iff]
  simp only [mem_searched_iff_inModule, own?_eq_none_iff]

/-- The environment names no settings file: its variable is missing, or empty. -/
def NoneNamed (w : Surroundings) : Prop :=
  ∀ e, w.environment.find? (·.1 = "GORMLINT_CONFIG".toList) = some e → e.2 = []

/-- A start that is given counts as it resolves, and without one the working directory does. -/
theorem start_eq (t : FileTree) (p : Option Path) : start t p = p.elim t.cwd t.resolve := by
  cases p <;> rfl

theorem settingsFile?_of_noneNamed (hw : NoneNamed w) (p : Option Path) : settingsFile? w p
    = ((searchUp w.tree (ancestors (p.elim w.tree.cwd w.tree.resolve))).map Path.ofParts, []) := by
  rw [settingsFile?, start_eq]
  cases hfind : w.environment.find? (·.1 = variable_) with
  | none => rfl
  | some e => rw [Option.map_some, hw e hfind]

/-- When the environment names no settings file, the one in effect is that of the nearest directory
that has any, at or above the start and not above its module root; there is none exactly when no
directory up to the module root has any. The start is what the given path resolves to, and the
working directory without one; the module root is the nearest directory with a module file. -/
theorem settingsFile?_nearest (w : Surroundings) (p : Option Path) (hw : NoneNamed w) :
    let here := p.elim w.tree.cwd w.tree.resolve
    (∀ file, (settingsFile? w p).1 = some file ↔
      ∃ dir name, InEffect w.tree here dir name ∧ file = .ofParts (dir ++ [name])) ∧
    ((settingsFile? w p).1 = none ↔ ∀ dir, InModule w.tree here dir → Bare w.tree dir) ∧
    (∀ root, moduleRoot? w.tree p = some root ↔ IsModuleRoot w.tree here root) ∧
    (settingsFile? w p).2 = [] := by
  intro here
  rw [settingsFile?_of_noneNamed hw]
  refine ⟨fun file => ?_, ?_, fun root => ?_, rfl⟩
  · simp only [Option.map_eq_some_iff, searchUp_eq_some_iff]
    constructor
    · rintro ⟨_, ⟨dir, name, h, rfl⟩, rfl⟩
      exact ⟨dir, name, h, rfl⟩
    · rintro ⟨dir, name, h, rfl⟩
      exact ⟨_, ⟨dir, name, h, rfl⟩, rfl⟩
  · rw [Option.map_eq_none_iff, searchUp_eq_none_iff]
  · rw [moduleRoot?, start_eq, find?_moduleFile_eq_some_iff]

/-- A module inside another project, seen from elsewhere. The directory to start from has a
directory with the name of a settings file, the module root a hidden file and such a directory, and
the project and the working directory have files of their own. The variable is empty. -/
def vendoredModule : Surroundings where
  tree := ⟨[(["gormlint.toml".toList], .file []), (["lib".toList, "go.mod".toList], .file []),
    (["lib".toList, ".gormlint.toml".toList], .file []),
    (["lib".toList, "gormlint.toml".toList], .dir),
    (["lib".toList, "models".toList, "gormlint.toml".toList], .dir),
    (["web".toList, "gormlint.toml".toList], .file [])], ["web".toList]⟩
  environment := [("GORMLINT_CONFIG".toList, [])]

theorem holds_vendored :
    (fileNames.find? (holds vendoredModule.tree ["lib", "models"]) = none
      ∧ holds vendoredModule.tree ["lib", "models"] moduleFile = false)
    ∧ fileNames.find? (holds vendoredModule.tree ["lib"]) = some ".gormlint.toml".toList
      ∧ holds vendoredModule.tree ["lib"] moduleFile = true := by
  simp [fileNames, moduleFile, holds, FileTree.isFile, FileTree.stat, Path.ofParts, FileTree.base,
    Path.isAbsolute, FileTree.follow, FileTree.lookup?, vendoredModule]

theorem hasFile_cwd_vendored :
    HasFile vendoredModule.tree vendoredModule.tree.cwd "gormlint.toml" := by
  simp [HasFile, FileTree.isFile, FileTree.stat, Path.ofParts, FileTree.base, Path.isAbsolute,
    FileTree.follow, FileTree.lookup?, vendoredModule]

/-- The path that leads from the working directory to the models. -/
def toModels : Path := .ofText "../lib/models"

theorem resolve_toModels :
    vendoredModule.tree.resolve toModels = ["lib".toList, "models".toList] := by
  have hpath : toModels = ⟨[], ["..".toList, "lib".toList, "models".toList]⟩ := by decide
  have hlib : vendoredModule.tree.lookup? ([] ++ ["lib".toList]) = some .dir := by decide
  have hmodels : vendoredModule.tree.lookup? (([] ++ ["lib".toList]) ++ ["models".toList])
      = some .dir := by decide
  have hinto : ∀ here rest name, name ≠ "..".toList →
      vendoredModule.tree.lookup? (here ++ [name]) = some .dir →
      vendoredModule.tree.realFrom [] here (name :: rest)
        = vendoredModule.tree.realFrom [] (here ++ [name]) rest :=
    fun here rest name hname hdir =>
      FileTree.realFrom_into hname (fun target h => by cases hdir.symm.trans h) [] rest
  have hup : vendoredModule.tree.resolve toModels
      = vendoredModule.tree.realFrom [] [] ["lib".toList, "models".toList] := by
    rw [FileTree.resolve, hpath, FileTree.realFrom, if_pos rfl]
    rfl
  rw [hup, hinto _ _ _ (by decide) hlib, hinto _ _ _ (by decide) hmodels, FileTree.realFrom]
  rfl

/-- The module root has the file in effect, for the start that is given; the working directory has
another one. -/
theorem settingsFile?_nearest_vendored :
    NoneNamed vendoredModule ∧
    (settingsFile? vendoredModule (some toModels)).1 = some (.ofParts ["lib", ".gormlint.toml"]) ∧
    moduleRoot? vendoredModule.tree (some toModels) = some ["lib".toList] ∧
    InEffect vendoredModule.tree ["lib", "models"] ["lib"] ".gormlint.toml" ∧
    HasFile vendoredModule.tree vendoredModule.tree.cwd "gormlint.toml" := by
  have hnone : NoneNamed vendoredModule := by
    intro e he
    obtain rfl := List.mem_singleton.mp (List.mem_of_find?_eq_some he)
    rfl
  obtain ⟨⟨hmodels, hmodels'⟩, hlib, hlib'⟩ := holds_vendored
  have hancestors : ancestors ["lib".toList, "models".toList]
      = [["lib".toList, "models".toList], ["lib".toList], []] := rfl
  have hhere : (some toModels).elim vendoredModule.tree.cwd vendoredModule.tree.resolve
      = ["lib".toList, "models".toList] := resolve_toModels
  have hfile : (settingsFile? vendoredModule (some toModels)).1
      = some (.ofParts (["lib".toList] ++ [".gormlint.toml".toList])) := by
    rw [settingsFile?_of_noneNamed hnone, hhere, hancestors, searchUp, hmodels]
    dsimp only
    rw [hmodels', if_neg Bool.false_ne_true, searchUp, hlib]
    rfl
  have hroot : moduleRoot? vendoredModule.tree (some toModels) = some ["lib".toList] := by
    rw [moduleRoot?, start_eq, hhere, hancestors,
      List.find?_cons_of_neg (by rw [hmodels']; decide)]
    exact List.find?_cons_of_pos hlib'
  obtain ⟨hnearest, -⟩ := settingsFile?_nearest vendoredModule (some toModels) hnone
  obtain ⟨dir, name, h, heq⟩ := (hnearest _).mp hfile
  obtain ⟨rfl, hname⟩ := List.append_inj' (Path.mk.inj heq).2 rfl
  obtain rfl := List.singleton_inj.mp hname
  rw [hhere] at h
  exact ⟨hnone, hfile, hroot, h, hasFile_cwd_vendored⟩

end Discovery
end TagLint
