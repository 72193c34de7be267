import Mathlib.Data.List.Nodup
import Mathlib.Data.List.Perm.Basic
import TagLint.Proofs.Registry.Vocabulary
import TagLint.Service.Report

/-! The names of a vocabulary by class: each stands once, under its own class. -/
namespace TagLint
open Text

variable {α β : Type} [DecidableEq α] {v : Vocabulary} {c : KeyClass}

/-! ## Grouping -/

/-- Rows that are sorted into groups are the same rows. -/
theorem flatMap_filter_perm (f : β → α) (rows : List β) {groups : List α} (hnodup : groups.Nodup) :
    (groups.flatMap fun a => rows.filter (f · = a)).Perm (rows.filter (f · ∈ groups)) := by
  induction groups with
  | nil => simp
  | cons a groups ih =>
    obtain ⟨ha, hnodup⟩ := List.nodup_cons.mp hnodup
    have hfirst : (rows.filter (f · ∈ a :: groups)).filter (f · = a) = rows.filter (f · = a) := by
      rw [List.filter_filter]
      apply List.filter_congr
      intro row _
      by_cases hrow : f row = a <;> simp [hrow]
    have hrest : (rows.filter (f · ∈ a :: groups)).filter (fun row => !decide (f row = a))
        = rows.filter (f · ∈ groups) := by
      rw [List.filter_filter]
      apply List.filter_congr
      intro row _
      by_cases hrow : f row = a
      · simp [hrow, ha]
      · simp [hrow]
    have hsplit := List.filter_append_perm (f · = a) (rows.filter (f · ∈ a :: groups))
    rw [hfirst, hrest] at hsplit
    rw [List.flatMap_cons]
    exact ((ih hnodup).append_left _).trans hsplit

/-! ## Names by class -/

namespace Vocabulary

theorem mem_classes_iff :
    c ∈ (v.rows.map (·.keyClass)).eraseDups ↔ ∃ row ∈ v.rows, row.keyClass = c := by
  simp [List.mem_eraseDups]

theorem map_fst_byClass (v : Vocabulary) :
    v.byClass.map Prod.fst = (v.rows.map (·.keyClass)).eraseDups := by
  simp [byClass, Function.comp_def]

theorem nodup_classes (v : Vocabulary) : (v.byClass.map Prod.fst).Nodup := by
  rw [map_fst_byClass]
  exact nodup_eraseDups _

/-- All names are listed. -/
theorem names_byClass_perm (v : Vocabulary) :
    (v.byClass.flatMap Prod.snd).Perm (v.rows.map KeyRow.name) := by
  have hall : v.rows.filter (·.keyClass ∈ (v.rows.map (·.keyClass)).eraseDups) = v.rows := by
    rw [List.filter_eq_self]
    intro row hrow
    simpa using mem_classes_iff.mpr ⟨row, hrow, rfl⟩
  have hgroups :=
    flatMap_filter_perm KeyRow.keyClass v.rows (nodup_eraseDups (v.rows.map (·.keyClass)))
  rw [hall] at hgroups
  have hnames := hgroups.map KeyRow.name
  rw [List.map_flatMap] at hnames
  rw [byClass, List.flatMap_map]
  exact hnames

/-- Names are told apart by their lower case already. -/
theorem Sound.nodup_names (h : Sound v) : (v.rows.map KeyRow.name).Nodup := by
  refine List.Nodup.of_map foldKey ?_
  have hfolded : (v.rows.map KeyRow.name).map foldKey = v.rows.map KeyRow.folded := by
    rw [List.map_map]
    exact List.map_congr_left fun row hrow => (h.named_rows row hrow).foldKey_name
  rw [hfolded]
  exact h.nodup_rows

/-- The groups hold every name once, under the class it has; no class has two groups. -/
structure Groups (v : Vocabulary) (names : List Text)
    (groups : List (KeyClass × List Text)) : Prop where
  all : (groups.flatMap Prod.snd).Perm names
  once : (groups.flatMap Prod.snd).Nodup
  classes : (groups.map Prod.fst).Nodup
  own : ∀ p ∈ groups, ∀ name ∈ p.2, v.classify name = p.1

theorem Sound.groups_byClass (h : Sound v) : v.Groups (v.rows.map KeyRow.name) v.byClass := by
  have hall := v.names_byClass_perm
  refine ⟨hall, hall.nodup_iff.mpr h.nodup_names, nodup_classes v, ?_⟩
  intro p hp name hname
  obtain ⟨c, -, rfl⟩ := List.mem_map.mp hp
  obtain ⟨row, hrow, rfl⟩ := List.mem_map.mp hname
  obtain ⟨hrow, hclass⟩ := List.mem_filter.mp hrow
  rw [h.classify_name hrow]
  simpa using hclass

/-- Every class has a built-in key. -/
theorem exists_builtin (c : KeyClass) : ∃ row ∈ builtin, row.keyClass = c := by
  cases c <;> decide +kernel

theorem filter_byClass (v : Vocabulary) (c : KeyClass) :
    v.byClass.filter (·.1 = c) = [(c, v.namesOf c)] := by
  have hc : c ∈ (v.rows.map (·.keyClass)).eraseDups := by
    obtain ⟨row, hrow, hclass⟩ := exists_builtin c
    exact mem_classes_iff.mpr ⟨row, List.mem_append_left _ hrow, hclass⟩
  rw [byClass, List.filter_map]
  change ((v.rows.map (·.keyClass)).eraseDups.filter (· = c)).map _ = _
  rw [filter_eq_singleton (nodup_eraseDups _) hc]
  rfl

end Vocabulary

/-- Asking for one class gives what asking for all gives, restricted to it. -/
theorem Service.keys_of_class (s : Service) {kind : Text}
    (hkind : KeyClass.ofName? (lower kind) = some c) :
    s.keys (some kind) = s.withSpan { name := "LintService.keys" }
      (keysOutcome (s.registry.vocabulary.byClass.filter (·.1 = c))) := by
  rw [Vocabulary.filter_byClass]
  simp only [keys, hkind]

end TagLint
