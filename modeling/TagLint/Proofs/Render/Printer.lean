import TagLint.Proofs.Render.Succeeds
import TagLint.Proofs.Text.Spans
import Mathlib.Tactic.Tauto

/-! What the program relies on in the printer of its outcomes. -/
namespace TagLint
open Text Render

namespace Text

/-- Neither brackets nor backslashes. -/
def Bare (t : Text) : Prop := '[' ∉ t ∧ ']' ∉ t ∧ '\\' ∉ t

instance (t : Text) : Decidable t.Bare := inferInstanceAs (Decidable (_ ∧ _ ∧ _))

variable {c : Char} {a b t : Text} {ts : List Text}

theorem bare_nil : Bare [] := by decide

theorem bare_append : (a ++ b).Bare ↔ a.Bare ∧ b.Bare := by
  simp only [Bare, List.mem_append, not_or]
  tauto

theorem bare_ofNat (n : Nat) : (ofNat n).Bare :=
  ⟨not_mem_ofNat (by decide) n, not_mem_ofNat (by decide) n, not_mem_ofNat (by decide) n⟩

theorem bare_ofInt (n : Int) : (ofInt n).Bare := by
  cases n with
  | ofNat n => exact bare_ofNat n
  | negSucc n =>
    have hsign : Bare ['-'] := by decide
    exact bare_append.mpr ⟨hsign, bare_ofNat (n + 1)⟩

theorem bare_join (ha : a.Bare) (hts : ∀ t ∈ ts, t.Bare) : (join a ts).Bare :=
  ⟨not_mem_join ha.1 fun t ht => (hts t ht).1, not_mem_join ha.2.1 fun t ht => (hts t ht).2.1,
    not_mem_join ha.2.2 fun t ht => (hts t ht).2.2⟩

/-- What may stand behind a bracket that opens a tag. -/
def opensTag (c : Char) : Bool :=
  ('a' ≤ c && c ≤ 'z') || c == '#' || c == '/' || c == '@'

/-- No bracket opens a tag. -/
def Untagged (t : Text) : Prop := ∀ c, opensTag c → ¬ ['[', c] <:+: t

theorem pair_infix_iff {d : Char} : [c, d] <:+: t ↔ (c, d) ∈ t.zip t.tail := by
  induction t with
  | nil => simp
  | cons c' t ih =>
    rw [List.infix_cons_iff, List.cons_prefix_cons, ih]
    cases t with
    | nil => simp
    | cons d' t => simp

instance (t : Text) : Decidable t.Untagged :=
  decidable_of_iff (∀ p ∈ t.zip t.tail, p.1 = '[' → ¬ opensTag p.2) <| by
    simp only [Untagged, pair_infix_iff, Prod.forall]
    grind

theorem Bare.untagged (h : t.Bare) : t.Untagged := by
  intro c _ hpair
  exact h.1 (hpair.subset List.mem_cons_self)

end Text

namespace Json

mutual

/-- The keys and texts of a document. -/
def strings : Json → List Text
  | .text t => [t]
  | .list items => stringsOf items
  | .dict pairs => stringsOfPairs pairs
  | _ => []

def stringsOf : List Json → List Text
  | [] => []
  | v :: rest => strings v ++ stringsOf rest

def stringsOfPairs : List (Text × Json) → List Text
  | [] => []
  | (key, v) :: rest => key :: strings v ++ stringsOfPairs rest

end

end Json

namespace Printer

variable {pr : Printer}

/-- The styles that the program opens and closes in its own texts. -/
def styles : List Text := ["bold red", "yellow", "dim", "gl.ok"]

/-- A text in which style tags count, or the text that it shows. -/
inductive ShownAs (pr : Printer) : Part → Part → Prop
  | same (part : Part) : ShownAs pr part part
  | shown {t u : Text} : pr.shown t = .ok u → ShownAs pr (.marked t) (.literal u)

/-- Columns with the same titles whose cells show the same. -/
structure Column.LooksAs (pr : Printer) (c d : Column) : Prop where
  title : c.title = d.title
  oneLine : c.oneLine = d.oneLine
  cells : List.Forall₂ (ShownAs pr) c.cells d.cells

/-- The documented behaviour of the printer. -/
structure Lawful (pr : Printer) : Prop where
  /-- Nothing but a text that cannot be written, such as one with half a character, makes writing
  a document fail. -/
  document {v : Json} : Succeeds (pr.document v) ↔ ∀ t ∈ v.strings, Succeeds (pr.written t)
  /-- Nothing but a style tag makes printing fail. -/
  lines {parts : List Part} :
    Succeeds (pr.lines parts) ↔ ∀ t, .marked t ∈ parts → Succeeds (pr.shown t)
  /-- Cells with style tags count like texts with style tags. -/
  table {columns : List Column} : Succeeds (pr.table columns)
    ↔ ∀ c ∈ columns, ∀ t, .marked t ∈ c.cells → Succeeds (pr.shown t)
  /-- Without colours, a cell with style tags is laid out like the text that it shows. -/
  table_congr {columns others : List Column} :
    List.Forall₂ (Column.LooksAs pr) columns others → pr.table columns = pr.table others
  /-- Only a bracket with a small letter, `#`, `/` or `@` behind it opens a tag. -/
  untagged {t : Text} : t.Untagged → Succeeds (pr.shown t)
  /-- A tag reaches from its bracket, or the backslashes before it, to the closing bracket. -/
  bare {a b : Text} (t : Text) : a.Bare → b.Bare →
    (Succeeds (pr.shown (a ++ t ++ b)) ↔ Succeeds (pr.shown t))
  /-- A style that is opened and closed again leaves the rest as it is. -/
  styled {style b : Text} (t : Text) : style ∈ styles → b.Bare →
    (Succeeds (pr.shown ("[" ++ style ++ "]" ++ b ++ "[/" ++ style ++ "]" ++ t))
      ↔ Succeeds (pr.shown t))

namespace Lawful

variable (hp : pr.Lawful) {t u : Text} {parts : List Part}
include hp

theorem succeeds_bare (h : t.Bare) : Succeeds (pr.shown t) := hp.untagged h.untagged

/-- A text as it stands is printed. -/
theorem succeeds_literals (ts : List Text) : Succeeds (pr.lines (ts.map .literal)) := by
  rw [hp.lines]
  intro t ht
  obtain ⟨u, -, hu⟩ := List.mem_map.mp ht
  cases hu

theorem succeeds_literal (t : Text) : Succeeds (pr.lines [.literal t]) :=
  hp.succeeds_literals [t]

theorem succeeds_marked_iff : Succeeds (pr.lines [.marked t]) ↔ Succeeds (pr.shown t) := by
  simp [hp.lines]

theorem succeeds_statusLine (op : Text) : Succeeds (statusLine pr op) :=
  hp.succeeds_literals ["OK", "  " ++ op]

theorem succeeds_fieldLine (key value : Text) : Succeeds (fieldLine pr key value) :=
  hp.succeeds_literal _

end Lawful
end Printer
end TagLint
