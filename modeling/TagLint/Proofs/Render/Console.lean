import TagLint.Proofs.Render.Markup
import TagLint.Render.Console

/-! The printer of a run behaves as the program relies on. -/
namespace TagLint
open Text Render

variable {t u : Text} {part : Part} {parts others : List Part} {c d : Printer.Column}

theorem Render.unmarked_eq_ok_iff : unmarked t = .ok u ↔ Console.Markup.plain t = .ok u := by
  rw [unmarked]
  cases Console.Markup.plain t with
  | error e => simp
  | ok shown => simp

theorem Render.succeeds_unmarked_iff :
    Succeeds (unmarked t) ↔ ∃ u, Console.Markup.plain t = .ok u := by
  simp only [Succeeds, unmarked_eq_ok_iff]

theorem Part.succeeds_plain_iff :
    Succeeds part.plain ↔ ∀ t, part = .marked t → Succeeds (unmarked t) := by
  cases part with
  | literal t => simp [plain]
  | marked t => simp [plain]

theorem Part.succeeds_mapM_plain_iff :
    Succeeds (parts.mapM plain) ↔ ∀ t, .marked t ∈ parts → Succeeds (unmarked t) := by
  simp only [succeeds_mapM_iff, succeeds_plain_iff]
  constructor
  · exact fun h t ht => h _ ht t rfl
  · rintro h _ hpart t rfl
    exact h t hpart

namespace Printer

theorem Column.succeeds_plain_iff :
    Succeeds c.plain ↔ ∀ t, .marked t ∈ c.cells → Succeeds (unmarked t) := by
  rw [← Part.succeeds_mapM_plain_iff]
  exact succeeds_map_iff

theorem ShownAs.plain_eq {other : Part} (h : ShownAs console part other) :
    part.plain = other.plain := by
  cases h with
  | same => rfl
  | shown h => exact h

theorem mapM_plain_eq (h : List.Forall₂ (ShownAs console) parts others) :
    parts.mapM Part.plain = others.mapM Part.plain := by
  induction h with
  | nil => rfl
  | cons hpart _ ih => rw [List.mapM_cons, List.mapM_cons, hpart.plain_eq, ih]

theorem Column.LooksAs.plain_eq (h : Column.LooksAs console c d) : c.plain = d.plain := by
  rw [Column.plain, Column.plain, h.title, h.oneLine, mapM_plain_eq h.cells]

theorem mapM_columns_eq {columns others : List Column}
    (h : List.Forall₂ (Column.LooksAs console) columns others) :
    columns.mapM Column.plain = others.mapM Column.plain := by
  induction h with
  | nil => rfl
  | cons hcolumn _ ih => rw [List.mapM_cons, List.mapM_cons, hcolumn.plain_eq, ih]

theorem console_lines (parts : List Part) : console.lines parts
    = (parts.mapM Part.plain).map fun ts => Console.print (join " " ts) := rfl

theorem console_table (columns : List Column) :
    console.table columns = (columns.mapM Column.plain).map Console.Table.print := rfl

theorem succeeds_shown_iff : Succeeds (console.shown t) ↔ ∃ u, Console.Markup.plain t = .ok u :=
  succeeds_unmarked_iff

theorem lawful_console : console.Lawful where
  document := iff_of_true (succeeds_ok _) fun _ _ => succeeds_ok _
  lines {parts} := by
    rw [console_lines, succeeds_map_iff]
    exact Part.succeeds_mapM_plain_iff
  table {columns} := by
    rw [console_table, succeeds_map_iff, succeeds_mapM_iff]
    exact forall₂_congr fun c _ => Column.succeeds_plain_iff
  table_congr h := by rw [console_table, console_table, mapM_columns_eq h]
  untagged h := succeeds_shown_iff.mpr (Console.Markup.exists_plain_of_untagged h)
  bare {a b} t ha hb := by
    rw [succeeds_shown_iff, succeeds_shown_iff, Console.Markup.plain_append ha hb]
    cases Console.Markup.plain t <;> simp [Except.map]
  styled {style b} t hstyle hb := by
    rw [succeeds_shown_iff, succeeds_shown_iff, Console.Markup.plain_styled hstyle hb]
    cases Console.Markup.plain t <;> simp [Except.map]

end Printer
end TagLint
