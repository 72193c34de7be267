import TagLint.FileTree.Path
import TagLint.Proofs.Text.Spans

/-! Paths read again from their text. -/
namespace TagLint.Path
open Text

variable {p q : Path} {t root name : Text} {parts : List Text}

/-- What can stand between the slashes of a path. -/
def IsName (name : Text) : Prop := name ≠ [] ∧ name ≠ ['.'] ∧ '/' ∉ name

structure WellFormed (p : Path) : Prop where
  root : p.root ∈ [[], ['/'], ['/', '/']]
  parts : ∀ name ∈ p.parts, IsName name

/-! ## Components -/

theorem isName_of_mem_components (h : name ∈ components t) : IsName name := by
  obtain ⟨hmem, hname⟩ := List.mem_filter.mp h
  have hname : name ≠ [] ∧ name ≠ ['.'] := by simpa using hname
  exact ⟨hname.1, hname.2, not_mem_of_mem_split hmem⟩

theorem components_slash (t : Text) : components ('/' :: t) = components t := by
  rw [components, split, if_pos rfl]
  rfl

theorem components_join (h : ∀ name ∈ parts, IsName name) :
    components (join ['/'] parts) = parts := by
  by_cases hnil : parts = []
  · subst hnil
    rfl
  · rw [components, split_join hnil fun name hname => (h name hname).2.2, List.filter_eq_self]
    intro name hname
    simpa using ⟨(h name hname).1, (h name hname).2.1⟩

/-! ## Round trip -/

theorem head?_join (h : ∀ name ∈ parts, IsName name) : ∀ c ∈ (join ['/'] parts).head?, c ≠ '/' := by
  cases parts with
  | nil => simp [join]
  | cons name parts =>
    obtain ⟨hne, -, hslash⟩ := h name List.mem_cons_self
    have hchars : ∀ c ∈ name, c ≠ '/' := by
      rintro c hc rfl
      exact hslash hc
    cases parts with
    | nil =>
      rw [join, ← List.append_nil name]
      exact head?_append_of_ne_nil (P := (· ≠ '/')) hne hchars []
    | cons next parts =>
      rw [join_cons_cons]
      exact head?_append_of_ne_nil (P := (· ≠ '/')) hne hchars _

theorem ofText_append (hroot : root ∈ [[], ['/'], ['/', '/']]) (h : ∀ name ∈ parts, IsName name) :
    ofText (root ++ join ['/'] parts) = ⟨root, parts⟩ := by
  have hstop : ∀ c ∈ (join ['/'] parts).head?, (c == '/') = false := by
    intro c hc
    simpa using head?_join h c hc
  have hslashes : (root ++ join ['/'] parts).takeWhile (· == '/') = root := by
    have hall : ∀ r ∈ [[], ['/'], ['/', '/']], ∀ c ∈ r, (c == '/') = true := by decide
    exact takeWhile_append_of_stop (hall root hroot) hstop
  have hjoin := components_join h
  simp only [List.mem_cons, List.not_mem_nil, or_false] at hroot
  rw [ofText, hslashes]
  rcases hroot with rfl | rfl | rfl
  · rw [List.nil_append, hjoin]
    rfl
  · rw [List.cons_append, components_slash, List.nil_append, hjoin]
    rfl
  · rw [List.cons_append, components_slash, List.cons_append, components_slash, List.nil_append,
      hjoin]
    rfl

/-- A path keeps its slashes and its names when it is written and read. -/
theorem ofText_toText (hp : p.WellFormed) : ofText p.toText = p := by
  have hslash : "/".toList = ['/'] := by decide
  rw [toText]
  split
  · rename_i h
    obtain ⟨root, parts⟩ := p
    obtain ⟨rfl, rfl⟩ : root = [] ∧ parts = [] := h
    decide
  · rw [hslash]
    exact ofText_append hp.root hp.parts

theorem toText_injective (hp : p.WellFormed) (hq : q.WellFormed) (h : p.toText = q.toText) :
    p = q := by
  rw [← ofText_toText hp, h, ofText_toText hq]

end TagLint.Path
