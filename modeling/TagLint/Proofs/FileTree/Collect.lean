import TagLint.FileTree.Collect
import TagLint.Proofs.FileTree.Path

/-! The files that are collected: each once, and each under a text of its own. -/
namespace TagLint
open Text

variable {t : FileTree} {s : FileTree.Selection} {p : Path} {ps : List Path} {dir : List Text}
  {seen : List (List Text)} {a : Text} {arguments : List Text}

theorem Path.wellFormed_ofText (a : Text) : (Path.ofText a).WellFormed := by
  refine ⟨?_, fun _ h => Path.isName_of_mem_components h⟩
  simp only [Path.ofText]
  split
  · decide
  · split <;> decide

theorem Path.WellFormed.child {name : Text} (hp : p.WellFormed) (hname : Path.IsName name) :
    (p.child name).WellFormed := by
  refine ⟨hp.root, ?_⟩
  intro n hn
  rcases List.mem_append.mp hn with hn | hn
  · exact hp.parts n hn
  · rw [List.mem_singleton.mp hn]
    exact hname

namespace FileTree

/-- Entries have names as a file system has them. -/
def WellNamed (t : FileTree) : Prop := ∀ e ∈ t.entries, ∀ name ∈ e.1, Path.IsName name

theorem isName_of_mem_children (ht : t.WellNamed) {e : Text × Node} (he : e ∈ t.children dir) :
    Path.IsName e.1 := by
  simp only [children, List.mem_filterMap, List.mem_eraseDups, Option.map_eq_some_iff] at he
  obtain ⟨name, ⟨entry, hentry, hname⟩, node, -, rfl⟩ := he
  obtain ⟨-, hhead⟩ := Option.ite_none_right_eq_some.mp hname
  exact ht entry hentry name (List.mem_of_mem_drop (List.mem_of_head? hhead))

theorem wellFormed_of_mem_walk (ht : t.WellNamed) {depth : Nat} {shown : Path}
    (hshown : shown.WellFormed) (hp : p ∈ t.walk s depth dir shown) : p.WellFormed := by
  induction depth generalizing dir shown with
  | zero => simp [walk] at hp
  | succ depth ih =>
    have hname : ∀ (q : Text × Node → Bool) (name : Text),
        name ∈ sorted (((t.children dir).filter q).map (·.1)) → Path.IsName name := by
      intro q name hn
      obtain ⟨e, he, rfl⟩ := List.mem_map.mp (List.mem_mergeSort.mp hn)
      exact isName_of_mem_children ht (List.mem_filter.mp he).1
    rcases List.mem_append.mp hp with hp | hp
    · obtain ⟨name, hn, rfl⟩ := List.mem_map.mp hp
      exact hshown.child (hname _ name (List.mem_filter.mp hn).1)
    · obtain ⟨name, hn, hp⟩ := List.mem_flatMap.mp hp
      exact ih (hshown.child (hname _ name hn)) hp

theorem wellFormed_of_mem_expand? (ht : t.WellNamed) (hp : p ∈ (t.expand? s a).getD []) :
    p.WellFormed := by
  simp only [expand?] at hp
  split at hp
  · rw [List.mem_singleton.mp hp]
    exact Path.wellFormed_ofText a
  · exact wellFormed_of_mem_walk ht (Path.wellFormed_ofText a) hp
  · simp at hp

/-! ## Repetitions -/

theorem dropRepeated_sublist (t : FileTree) (seen : List (List Text)) (ps : List Path) :
    (t.dropRepeated seen ps).Sublist ps := by
  induction ps generalizing seen with
  | nil => exact .slnil
  | cons p ps ih =>
    simp only [dropRepeated]
    split
    · exact (ih seen).cons p
    · exact (ih _).cons_cons p

theorem resolve_not_mem_seen (hp : p ∈ t.dropRepeated seen ps) : t.resolve p ∉ seen := by
  induction ps generalizing seen with
  | nil => simp [dropRepeated] at hp
  | cons q ps ih =>
    simp only [dropRepeated] at hp
    split at hp
    · exact ih hp
    · rename_i hq
      rcases List.mem_cons.mp hp with rfl | hp
      · exact hq
      · exact fun hseen => ih hp (List.mem_cons_of_mem _ hseen)

/-- No two of the kept paths lead to one file. -/
theorem pairwise_dropRepeated (t : FileTree) (seen : List (List Text)) (ps : List Path) :
    (t.dropRepeated seen ps).Pairwise (fun p q => t.resolve p ≠ t.resolve q) := by
  induction ps generalizing seen with
  | nil => exact .nil
  | cons p ps ih =>
    simp only [dropRepeated]
    split
    · exact ih seen
    · refine .cons ?_ (ih _)
      intro q hq heq
      exact resolve_not_mem_seen hq (heq ▸ List.mem_cons_self)

/-- What the kept paths lead to comes in the order in which it is first led to. -/
theorem map_resolve_dropRepeated (t : FileTree) (seen : List (List Text)) (ps : List Path) :
    (t.dropRepeated seen ps).map t.resolve = ((ps.map t.resolve).filter (· ∉ seen)).eraseDups := by
  induction ps generalizing seen with
  | nil => rfl
  | cons p ps ih =>
    simp only [dropRepeated, List.map_cons]
    split
    · rename_i hseen
      rw [ih, List.filter_cons_of_neg (by simpa using hseen)]
    · rename_i hseen
      rw [List.map_cons, ih, List.filter_cons_of_pos (by simpa using hseen), List.eraseDups_cons,
        List.filter_filter]
      congr 3
      funext real
      by_cases hreal : real = t.resolve p <;> simp [hreal]

/-- A kept path is the first that leads to its file. -/
theorem find?_of_mem_dropRepeated (hp : p ∈ t.dropRepeated seen ps) :
    ps.find? (fun q => t.resolve q = t.resolve p) = some p := by
  induction ps generalizing seen with
  | nil => cases hp
  | cons q ps ih =>
    have hnot := resolve_not_mem_seen hp
    simp only [dropRepeated] at hp
    split at hp
    · rename_i hq
      have hne : t.resolve q ≠ t.resolve p := fun heq => hnot (heq ▸ hq)
      rw [List.find?_cons_of_neg (by simpa using hne), ih hp]
    · rcases List.mem_cons.mp hp with rfl | hp
      · rw [List.find?_cons_of_pos (by simp)]
      · have hne : t.resolve q ≠ t.resolve p :=
          fun heq => resolve_not_mem_seen hp (heq ▸ List.mem_cons_self)
        rw [List.find?_cons_of_neg (by simpa using hne), ih hp]

theorem wellFormed_of_mem_collect (ht : t.WellNamed) (hp : p ∈ (t.collect s arguments).1) :
    p.WellFormed := by
  obtain ⟨a, -, hp⟩ := List.mem_flatMap.mp ((dropRepeated_sublist t _ _).mem hp)
  exact wellFormed_of_mem_expand? ht hp

/-- The texts of the collected paths tell the files apart. -/
theorem pairwise_toText_collect (ht : t.WellNamed) (s : Selection) (arguments : List Text) :
    (t.collect s arguments).1.Pairwise (fun p q => p.toText ≠ q.toText) := by
  apply (pairwise_dropRepeated t _ _).imp_of_mem
  intro p q hp hq hne htext
  have heq :=
    Path.toText_injective (wellFormed_of_mem_collect ht hp) (wellFormed_of_mem_collect ht hq) htext
  exact hne (congrArg t.resolve heq)

end FileTree
end TagLint
