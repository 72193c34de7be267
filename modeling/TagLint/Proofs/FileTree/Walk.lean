import Mathlib.Data.List.Nodup
import TagLint.Proofs.FileTree.Collect
import TagLint.Proofs.Registry.Dict

/-! The walk of a directory: the entries that it takes, and their order. -/
namespace TagLint
open Text

variable {t : FileTree} {s : FileTree.Selection} {dir subs names parts : List Text} {shown p : Path}
  {name sub : Text} {node : Node} {depth depth' : Nat}

/-- The path of what lies below a directory. -/
def Path.below (p : Path) (names : List Text) : Path := ⟨p.root, p.parts ++ names⟩

theorem Path.child_below (p : Path) (sub : Text) (names : List Text) :
    (p.child sub).below names = p.below (sub :: names) := by
  simp [child, below]

namespace FileTree

/-! ## Entries of a directory -/

/-- What stands in the tree is an entry, or a directory above one. -/
theorem exists_entry_of_lookup? (hne : parts ≠ []) (h : t.lookup? parts = some node) :
    ∃ e ∈ t.entries, parts <+: e.1 := by
  rw [lookup?] at h
  split at h
  · rename_i named node' hfind
    obtain rfl : named = parts := by simpa using List.find?_some hfind
    exact ⟨_, List.mem_of_find?_eq_some hfind, List.prefix_rfl⟩
  · obtain ⟨hany, -⟩ := Option.ite_none_right_eq_some.mp h
    obtain ⟨e, he, hprefix⟩ := List.any_eq_true.mp (hany.resolve_left hne)
    exact ⟨e, he, List.isPrefixOf_iff_prefix.mp hprefix⟩

theorem mem_children_iff :
    (name, node) ∈ t.children dir ↔ t.lookup? (dir ++ [name]) = some node := by
  simp only [children, List.mem_filterMap, List.mem_eraseDups, Option.map_eq_some_iff,
    Prod.mk.injEq]
  constructor
  · rintro ⟨_, -, _, hnode, rfl, rfl⟩
    exact hnode
  · intro hnode
    obtain ⟨e, he, rest, hparts⟩ := exists_entry_of_lookup? (by simp) hnode
    refine ⟨name, ⟨e, he, ?_⟩, node, hnode, rfl, rfl⟩
    have hprefix : dir <+: e.1 := ⟨name :: rest, by simpa using hparts⟩
    rw [if_pos (List.isPrefixOf_iff_prefix.mpr hprefix), ← hparts]
    simp

theorem nodup_children (t : FileTree) (dir : List Text) :
    ((t.children dir).map Prod.fst).Nodup := by
  rw [children, List.map_filterMap]
  refine (nodup_eraseDups _).filterMap ?_
  intro a b name ha hb
  simp only [Option.map_map, Option.mem_def, Option.map_eq_some_iff, Function.comp_apply] at ha hb
  obtain ⟨_, -, rfl⟩ := ha
  obtain ⟨_, -, rfl⟩ := hb
  rfl

/-- A maximum is not below what it was taken of. -/
theorem le_foldl_max {ns : List Nat} {n : Nat} (start : Nat) (h : n ≤ start ∨ n ∈ ns) :
    n ≤ ns.foldl max start := by
  induction ns generalizing start with
  | nil => simpa using h
  | cons m ns ih =>
    refine ih (max start m) ?_
    rcases h with h | h
    · exact .inl (by omega)
    · rcases List.mem_cons.mp h with rfl | h
      · exact .inl (by omega)
      · exact .inr h

/-- Everything in the tree lies above the depth. -/
theorem length_lt_depth {e : List Text × Node} (he : e ∈ t.entries) : e.1.length < t.depth := by
  rw [depth, Nat.lt_succ_iff]
  exact le_foldl_max 0 (.inr (List.mem_map_of_mem he))

theorem children_of_depth_le (h : t.depth ≤ dir.length) : t.children dir = [] := by
  rw [List.eq_nil_iff_forall_not_mem]
  rintro ⟨name, node⟩ hmem
  obtain ⟨e, he, hprefix⟩ := exists_entry_of_lookup? (by simp) (mem_children_iff.mp hmem)
  have hlength := hprefix.length_le
  have hdepth := length_lt_depth he
  rw [List.length_append, List.length_singleton] at hlength
  omega

/-! ## Names in order -/

theorem mem_sorted : name ∈ sorted names ↔ name ∈ names := List.mem_mergeSort

theorem pairwise_sorted (hnodup : names.Nodup) : (sorted names).Pairwise (· < ·) := by
  have hle : (sorted names).Pairwise fun a b => (!decide (b < a)) = true := by
    apply List.pairwise_mergeSort
    · intro a b c hab hbc
      simp only [Bool.not_eq_true', decide_eq_false_iff_not, List.not_lt] at hab hbc ⊢
      exact List.le_trans hab hbc
    · intro a b
      simp only [Bool.or_eq_true, Bool.not_eq_true', decide_eq_false_iff_not, List.not_lt]
      exact List.le_total a b
  have hne : (sorted names).Nodup := (List.mergeSort_perm names _).nodup_iff.mpr hnodup
  refine (hle.and hne).imp ?_
  rintro a b ⟨hab, hne⟩
  simp only [Bool.not_eq_true', decide_eq_false_iff_not, List.not_lt] at hab
  exact Decidable.byContradiction fun hlt => hne (List.le_antisymm hab (List.not_lt.mp hlt))

/-! ## What is taken -/

/-- The names of the files that the walk takes from a directory. -/
def filesOf (t : FileTree) (s : Selection) (dir : List Text) (shown : Path) : List Text :=
  (sorted (((t.children dir).filter fun e => !t.leadsToDir shown e).map (·.1))).filter s.takes

/-- The names of the subdirectories that it goes into. -/
def dirsOf (t : FileTree) (s : Selection) (dir : List Text) : List Text :=
  sorted (((t.children dir).filter fun e => e.2 = .dir && !s.excludedDirs.contains e.1).map (·.1))

theorem walk_succ (t : FileTree) (s : Selection) (depth : Nat) (dir : List Text) (shown : Path) :
    t.walk s (depth + 1) dir shown = (t.filesOf s dir shown).map shown.child
      ++ (t.dirsOf s dir).flatMap fun name => t.walk s depth (dir ++ [name]) (shown.child name) :=
  rfl

theorem pairwise_filesOf (t : FileTree) (s : Selection) (dir : List Text) (shown : Path) :
    (t.filesOf s dir shown).Pairwise (· < ·) := by
  refine (pairwise_sorted ?_).filter _
  exact (nodup_children t dir).sublist (List.filter_sublist.map _)

theorem pairwise_dirsOf (t : FileTree) (s : Selection) (dir : List Text) :
    (t.dirsOf s dir).Pairwise (· < ·) :=
  pairwise_sorted ((nodup_children t dir).sublist (List.filter_sublist.map _))

theorem mem_dirsOf_iff : name ∈ t.dirsOf s dir ↔ t.lookup? (dir ++ [name]) = some .dir ∧
    name ∉ s.excludedDirs := by
  simp only [dirsOf, mem_sorted, List.mem_map, List.mem_filter]
  constructor
  · rintro ⟨⟨name, node⟩, ⟨hmem, htest⟩, rfl⟩
    obtain ⟨rfl, hname⟩ : node = .dir ∧ name ∉ s.excludedDirs := by simpa using htest
    exact ⟨mem_children_iff.mp hmem, hname⟩
  · rintro ⟨hdir, hname⟩
    exact ⟨(name, .dir), ⟨mem_children_iff.mpr hdir, by simpa using hname⟩, rfl⟩

/-- An entry that the walk of a directory takes: it is reached through real subdirectories, none of
them excluded, and it is a file, or a link that does not lead to a directory. -/
structure Selected (t : FileTree) (s : Selection) (dir : List Text) (shown : Path)
    (subs : List Text) (name : Text) :
    Prop where
  real : ∀ real, real ≠ [] → real <+: subs → t.lookup? (dir ++ real) = some .dir
  allowed : ∀ sub ∈ subs, sub ∉ s.excludedDirs
  entry : ∃ node, t.lookup? (dir ++ subs ++ [name]) = some node ∧ node ≠ .dir ∧
    ∀ target, node = .link target → t.isDir (shown.below (subs ++ [name])) = false
  matched : ∃ pattern ∈ s.patterns, Glob.isMatch pattern name

theorem Selection.takes_iff {s : Selection} :
    s.takes name ↔ ∃ pattern ∈ s.patterns, Glob.isMatch pattern name :=
  List.any_eq_true

theorem leadsToDir_eq_false_iff : t.leadsToDir shown (name, node) = false ↔
    node ≠ .dir ∧ ∀ target, node = .link target → t.isDir (shown.child name) = false := by
  cases node <;> simp [leadsToDir]

theorem mem_filesOf_iff : name ∈ t.filesOf s dir shown ↔ t.Selected s dir shown [] name := by
  simp only [filesOf, List.mem_filter, mem_sorted, List.mem_map, Bool.not_eq_true']
  constructor
  · rintro ⟨⟨⟨_, node⟩, ⟨hmem, htest⟩, rfl⟩, htakes⟩
    refine ⟨?_, by simp,
      ⟨node, by simpa using mem_children_iff.mp hmem, leadsToDir_eq_false_iff.mp htest⟩,
      Selection.takes_iff.mp htakes⟩
    intro real hne hprefix
    exact absurd (List.prefix_nil.mp hprefix) hne
  · rintro ⟨-, -, ⟨node, hnode, hnot⟩, hmatched⟩
    rw [List.append_nil] at hnode
    exact ⟨⟨(name, node), ⟨mem_children_iff.mpr hnode, leadsToDir_eq_false_iff.mpr hnot⟩, rfl⟩,
      Selection.takes_iff.mpr hmatched⟩

theorem selected_cons_iff : t.Selected s dir shown (sub :: subs) name ↔
    sub ∈ t.dirsOf s dir ∧ t.Selected s (dir ++ [sub]) (shown.child sub) subs name := by
  have happend (names : List Text) : dir ++ [sub] ++ names = dir ++ sub :: names := by simp
  rw [mem_dirsOf_iff]
  constructor
  · rintro ⟨hreal, hallowed, hentry, hmatched⟩
    obtain ⟨hsub, hallowed⟩ := List.forall_mem_cons.mp hallowed
    refine ⟨⟨hreal [sub] (by simp) (by simp), hsub⟩, ?_, hallowed, ?_, hmatched⟩
    · intro real _ hprefix
      rw [happend]
      exact hreal (sub :: real) (by simp) (List.cons_prefix_cons.mpr ⟨rfl, hprefix⟩)
    · rwa [happend, Path.child_below]
  · rintro ⟨⟨hdir, hsub⟩, hreal, hallowed, hentry, hmatched⟩
    refine ⟨?_, List.forall_mem_cons.mpr ⟨hsub, hallowed⟩, ?_, hmatched⟩
    · rintro (_ | ⟨first, real⟩) hne hprefix
      · exact absurd rfl hne
      · obtain ⟨rfl, hrest⟩ := List.cons_prefix_cons.mp hprefix
        by_cases hnil : real = []
        · rw [hnil]
          exact hdir
        · rw [← happend]
          exact hreal real hnil hrest
    · rwa [happend, Path.child_below] at hentry

/-! ## The walk -/

/-- All that a walk can come to. -/
def listing (t : FileTree) (s : Selection) (dir : List Text) (shown : Path) : List Path :=
  t.walk s t.depth dir shown

theorem walk_of_depth_le (h : t.depth ≤ dir.length) (s : Selection) (depth : Nat) (shown : Path) :
    t.walk s depth dir shown = [] := by
  cases depth with
  | zero => rfl
  | succ depth => simp [walk_succ, filesOf, dirsOf, children_of_depth_le h, sorted]

/-- A walk that may go as deep as the tree is comes to the same paths as one that may go deeper. -/
theorem walk_eq_of_depth_le (h : t.depth ≤ depth + dir.length)
    (h' : t.depth ≤ depth' + dir.length) :
    t.walk s depth dir shown = t.walk s depth' dir shown := by
  induction depth generalizing depth' dir shown with
  | zero =>
    have hdepth : t.depth ≤ dir.length := by omega
    rw [walk_of_depth_le hdepth, walk_of_depth_le hdepth]
  | succ depth ih =>
    cases depth' with
    | zero =>
      have hdepth : t.depth ≤ dir.length := by omega
      rw [walk_of_depth_le hdepth, walk_of_depth_le hdepth]
    | succ depth' =>
      rw [walk_succ, walk_succ]
      congr 1
      apply List.flatMap_congr
      intro name _
      have hlength : (dir ++ [name]).length = dir.length + 1 := List.length_append
      exact ih (by omega) (by omega)

/-- A directory lists its files, then what its subdirectories list. -/
theorem listing_eq (t : FileTree) (s : Selection) (dir : List Text) (shown : Path) :
    t.listing s dir shown = (t.filesOf s dir shown).map shown.child
      ++ (t.dirsOf s dir).flatMap fun name => t.listing s (dir ++ [name]) (shown.child name) := by
  have hdeeper : t.listing s dir shown = t.walk s (t.depth + 1) dir shown :=
    walk_eq_of_depth_le (by omega) (by omega)
  rw [hdeeper, walk_succ]
  rfl

theorem exists_selected_of_mem_walk (hp : p ∈ t.walk s depth dir shown) :
    ∃ subs name, t.Selected s dir shown subs name ∧ p = shown.below (subs ++ [name]) := by
  induction depth generalizing dir shown with
  | zero => cases hp
  | succ depth ih =>
    rw [walk_succ] at hp
    rcases List.mem_append.mp hp with hp | hp
    · obtain ⟨name, hname, rfl⟩ := List.mem_map.mp hp
      exact ⟨[], name, mem_filesOf_iff.mp hname, rfl⟩
    · obtain ⟨sub, hsub, hp⟩ := List.mem_flatMap.mp hp
      obtain ⟨subs, name, hselected, rfl⟩ := ih hp
      exact ⟨sub :: subs, name, selected_cons_iff.mpr ⟨hsub, hselected⟩,
        Path.child_below shown sub _⟩

theorem Selected.mem_listing (h : t.Selected s dir shown subs name) :
    shown.below (subs ++ [name]) ∈ t.listing s dir shown := by
  induction subs generalizing dir shown with
  | nil =>
    rw [listing_eq]
    exact List.mem_append_left _ (List.mem_map_of_mem (mem_filesOf_iff.mpr h))
  | cons sub subs ih =>
    obtain ⟨hsub, hselected⟩ := selected_cons_iff.mp h
    have hmem := ih hselected
    rw [Path.child_below] at hmem
    rw [listing_eq]
    exact List.mem_append_right _ (List.mem_flatMap.mpr ⟨sub, hsub, hmem⟩)

/-- The walk takes what is selected, and nothing else. -/
theorem mem_listing_iff : p ∈ t.listing s dir shown ↔
    ∃ subs name, t.Selected s dir shown subs name ∧ p = shown.below (subs ++ [name]) := by
  constructor
  · exact exists_selected_of_mem_walk
  · rintro ⟨subs, name, hselected, rfl⟩
    exact hselected.mem_listing

end FileTree
end TagLint
