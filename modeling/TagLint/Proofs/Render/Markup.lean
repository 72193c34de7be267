import TagLint.Console.Markup
import TagLint.Proofs.Render.Printer

/-! When a text with style tags has a text to show, and what in it does not matter for that. -/
namespace TagLint.Console.Markup
open Text

variable {c : Char} {a b t u more : Text} {n : Nat} {ps : List MarkupPiece}

/-! ## Tags -/

/-- A tag at the start of a text, spelled out. -/
def Spells (n : Nat) (u more t : Text) : Prop :=
  ∃ c body, u = c :: body ∧ startsTag c ∧ '[' ∉ body ∧ ']' ∉ body
    ∧ t = List.replicate n '\\' ++ '[' :: c :: (body ++ ']' :: more)

theorem tagHere?_eq_some_iff : tagHere? t = some (n, u, more) ↔ Spells n u more t := by
  constructor
  · intro h
    simp only [tagHere?] at h
    split at h
    · rename_i c rest hdrop
      split at h
      · rename_i after hafter
        obtain ⟨hc, hfound⟩ := Option.ite_none_right_eq_some.mp h
        simp only [Option.some.injEq, Prod.mk.injEq] at hfound
        obtain ⟨rfl, rfl, rfl⟩ := hfound
        have hplain := fun d (hd : d ∈ rest.takeWhile fun d => d != '[' && d != ']') =>
          List.all_eq_true.mp List.all_takeWhile d hd
        refine ⟨c, _, rfl, by simp_all, fun hd => by simpa using hplain _ hd,
          fun hd => by simpa using hplain _ hd, ?_⟩
        have hrest : rest = rest.takeWhile (fun d => d != '[' && d != ']') ++ ']' :: after := by
          have := List.take_append_drop (rest.takeWhile fun d => d != '[' && d != ']').length rest
          rw [hafter, ← List.prefix_iff_eq_take.mp (List.takeWhile_prefix _)] at this
          exact this.symm
        have hescapes : t.takeWhile (· == '\\')
            = List.replicate (t.takeWhile (· == '\\')).length '\\' :=
          List.eq_replicate_of_mem fun d hd =>
            by simpa using List.all_eq_true.mp List.all_takeWhile d hd
        have ht := List.take_append_drop (t.takeWhile (· == '\\')).length t
        rw [hdrop, ← List.prefix_iff_eq_take.mp (List.takeWhile_prefix _)] at ht
        rw [← hrest, ← hescapes]
        exact ht.symm
      · simp at h
    · simp at h
  · rintro ⟨c, body, rfl, hc, hopen, hclose, rfl⟩
    have hescapes : (List.replicate n '\\' ++ '[' :: c :: (body ++ ']' :: more)).takeWhile
        (· == '\\') = List.replicate n '\\' := by
      rw [List.takeWhile_append_of_pos (by simp)]
      simp
    have hplain : ∀ d ∈ body, (d != '[' && d != ']') = true := by
      intro d hd
      have hne : d ≠ '[' ∧ d ≠ ']' := ⟨fun h => hopen (h ▸ hd), fun h => hclose (h ▸ hd)⟩
      simp [hne]
    have hbody : (body ++ ']' :: more).takeWhile (fun d => d != '[' && d != ']') = body := by
      rw [List.takeWhile_append_of_pos hplain]
      simp
    have hne : c ≠ ']' := by
      rintro rfl
      exact absurd hc (by decide)
    simp [tagHere?, hescapes, hbody, hc, hne]

/-- What follows a text and closes no bracket does not make a tag of it. -/
theorem tagHere?_append (hb : ']' ∉ b) (t : Text) :
    tagHere? (t ++ b) = (tagHere? t).map fun (n, u, more) => (n, u, more ++ b) := by
  cases htag : tagHere? t with
  | some found =>
    obtain ⟨n, u, more⟩ := found
    obtain ⟨c, body, rfl, hc, hopen, hclose, rfl⟩ := tagHere?_eq_some_iff.mp htag
    exact tagHere?_eq_some_iff.mpr ⟨c, body, rfl, hc, hopen, hclose, by simp⟩
  | none =>
    rw [Option.map_none, Option.eq_none_iff_forall_ne_some]
    rintro ⟨n, u, more⟩ hfound
    obtain ⟨c, body, rfl, hc, hopen, hclose, heq⟩ := tagHere?_eq_some_iff.mp hfound
    have hsplit : t ++ b = (List.replicate n '\\' ++ '[' :: c :: body) ++ ']' :: more := by
      rw [heq]
      simp
    obtain ⟨rest, -, hrest⟩ | ⟨rest, ht, hrest⟩ := List.append_eq_append_iff.mp hsplit
    · exact hb (hrest ▸ by simp)
    · cases rest with
      | nil =>
        obtain rfl : ']' :: more = b := hrest
        exact hb List.mem_cons_self
      | cons d rest =>
        obtain ⟨rfl, -⟩ := List.cons.inj hrest
        have hspells : Spells n (c :: body) rest t :=
          ⟨c, body, rfl, hc, hopen, hclose, by rw [ht]; simp⟩
        rw [tagHere?_eq_some_iff.mpr hspells] at htag
        cases htag

/-! ## Pieces -/

/-- The characters of a text, each as a piece. -/
def letters (t : Text) : List MarkupPiece := t.map fun c => .text [c]

/-- What comes of a tag. -/
def tagPiece (n : Nat) (u : Text) : MarkupPiece :=
  if n % 2 = 1 then .text (['['] ++ u ++ [']']) else .tag u

theorem pieces_of_tag (h : tagHere? t = some (n, u, more)) :
    pieces t = .text (List.replicate (n / 2) '\\') :: tagPiece n u :: pieces more := by
  cases t with
  | nil => simp [tagHere?] at h
  | cons c t =>
    rw [pieces]
    split
    · rename_i htag
      rw [h] at htag
      cases htag
      rfl
    · rename_i htag
      rw [h] at htag
      simp at htag

theorem pieces_of_escape (h : tagHere? (c :: t) = none) (hc : c = '\\' ∧ t.head? = some '[') :
    pieces (c :: t) = .text ['['] :: pieces t.tail := by
  rw [pieces]
  split
  · rename_i htag
    rw [h] at htag
    simp at htag
  · rw [if_pos hc]

theorem pieces_of_letter (h : tagHere? (c :: t) = none)
    (hc : ¬ (c = '\\' ∧ t.head? = some '[')) : pieces (c :: t) = .text [c] :: pieces t := by
  rw [pieces]
  split
  · rename_i htag
    rw [h] at htag
    simp at htag
  · rw [if_neg hc]

/-- What holds neither brackets nor backslashes stays in front of the pieces behind it. -/
theorem pieces_append (hopen : '[' ∉ a) (hescape : '\\' ∉ a) (t : Text) :
    pieces (a ++ t) = letters a ++ pieces t := by
  induction a with
  | nil => rfl
  | cons c a ih =>
    obtain ⟨hc, hopen⟩ := List.ne_and_not_mem_of_not_mem_cons hopen
    obtain ⟨hc', hescape⟩ := List.ne_and_not_mem_of_not_mem_cons hescape
    have hnone : tagHere? (c :: (a ++ t)) = none := by
      simp [tagHere?, Ne.symm hc, Ne.symm hc']
    rw [List.cons_append, pieces_of_letter hnone fun h => hc' h.1.symm, ih hopen hescape]
    rfl

theorem pieces_of_bare (h : t.Bare) : pieces t = letters t := by
  have happend := pieces_append h.1 h.2.2 []
  rwa [List.append_nil, pieces, List.append_nil] at happend

/-- It stays behind them as well. -/
theorem pieces_append_bare (hb : b.Bare) (t : Text) : pieces (t ++ b) = pieces t ++ letters b := by
  fun_induction pieces t with
  | case1 => exact pieces_of_bare hb
  | case2 c t escapes tag more htag ih =>
    have happend := tagHere?_append hb.2.1 (c :: t)
    rw [htag, Option.map_some] at happend
    rw [pieces_of_tag happend, ih]
    rfl
  | case3 c t htag hc ih =>
    have happend := tagHere?_append hb.2.1 (c :: t)
    rw [htag, Option.map_none] at happend
    have ht : t ≠ [] := by
      rintro rfl
      simp at hc
    rw [List.cons_append] at happend ⊢
    rw [pieces_of_escape happend ⟨hc.1, by simp [List.head?_append, hc.2]⟩,
      List.tail_append_of_ne_nil ht, ih]
    rfl
  | case4 c t htag hc ih =>
    have happend := tagHere?_append hb.2.1 (c :: t)
    rw [htag, Option.map_none] at happend
    have hescape : ¬ (c = '\\' ∧ (t ++ b).head? = some '[') := by
      rintro ⟨hc', hhead⟩
      rw [List.head?_append, Option.or_eq_some_iff] at hhead
      obtain hhead | ⟨-, hhead⟩ := hhead
      · exact hc ⟨hc', hhead⟩
      · exact hb.1 (List.mem_of_head? hhead)
    rw [List.cons_append] at happend ⊢
    rw [pieces_of_letter happend hescape, ih]
    rfl

/-- Where no bracket opens a tag there is none among the pieces. -/
theorem tag_not_mem_pieces (h : t.Untagged) : .tag u ∉ pieces t := by
  fun_induction pieces t with
  | case1 => simp
  | case2 c t escapes tag more htag ih =>
    obtain ⟨d, body, -, hd, -, -, heq⟩ := tagHere?_eq_some_iff.mp htag
    exact (h d hd ⟨List.replicate escapes '\\', body ++ ']' :: more, by rw [heq]; simp⟩).elim
  | case3 c t htag hc ih =>
    have htail : Untagged t.tail := fun d hd hpair =>
      h d hd (hpair.trans ((List.tail_suffix t).isInfix.trans (List.suffix_cons c t).isInfix))
    simpa using ih htail
  | case4 c t htag hc ih =>
    have htail : Untagged t :=
      fun d hd hpair => h d hd (hpair.trans (List.suffix_cons c t).isInfix)
    simpa using ih htail

/-! ## Texts -/

theorem textOf_letters_append (stack : List Text) (t : Text) (ps : List MarkupPiece) :
    textOf stack (letters t ++ ps) = (textOf stack ps).map (t ++ ·) := by
  induction t with
  | nil => cases h : textOf stack ps <;> simp [letters, h, Except.map]
  | cons c t ih =>
    change textOf stack (.text [c] :: (letters t ++ ps)) = _
    rw [textOf, ih]
    cases textOf stack ps <;> rfl

theorem textOf_append_letters (stack : List Text) (t : Text) (ps : List MarkupPiece) :
    textOf stack (ps ++ letters t) = (textOf stack ps).map (· ++ t) := by
  induction ps generalizing stack with
  | nil =>
    have hletters := textOf_letters_append stack t []
    rw [List.append_nil] at hletters
    rw [List.nil_append, hletters]
    simp [textOf, Except.map]
  | cons p ps ih =>
    cases p with
    | text u =>
      rw [List.cons_append, textOf, textOf, ih]
      cases textOf stack ps <;> simp [Except.map]
    | tag u =>
      rw [List.cons_append, textOf, textOf]
      split
      · split
        · exact ih _
        · rfl
      · exact ih _

/-- Texts alone close nothing. -/
theorem exists_textOf (h : ∀ u, .tag u ∉ ps) (stack : List Text) :
    ∃ t, textOf stack ps = .ok t := by
  induction ps generalizing stack with
  | nil => exact ⟨[], rfl⟩
  | cons p ps ih =>
    have ih := ih fun u hu => h u (List.mem_cons_of_mem p hu)
    cases p with
    | text t =>
      obtain ⟨rest, hrest⟩ := ih stack
      exact ⟨t ++ rest, by rw [textOf, hrest]; rfl⟩
    | tag u => exact (h u List.mem_cons_self).elim

theorem exists_plain_of_untagged (h : t.Untagged) : ∃ u, plain t = .ok u :=
  exists_textOf (fun _ => tag_not_mem_pieces h) []

/-- What is around a text does not matter when it is bare. -/
theorem plain_append (ha : a.Bare) (hb : b.Bare) (t : Text) :
    plain (a ++ t ++ b) = (plain t).map (a ++ · ++ b) := by
  rw [plain, pieces_append_bare hb, pieces_append ha.1 ha.2.2, textOf_append_letters,
    textOf_letters_append, plain]
  cases textOf [] (pieces t) <;> rfl

/-- The tags that open and close a style of the program. -/
theorem spells_styles : ∀ style ∈ Printer.styles, ∀ more,
    Spells 0 style more ("[" ++ style ++ "]" ++ more)
      ∧ Spells 0 ("/" ++ style) more ("[/" ++ style ++ "]" ++ more) := by
  simp only [Printer.styles, List.forall_mem_cons]
  refine ⟨fun more => ?_, fun more => ?_, fun more => ?_, fun more => ?_, by simp⟩
  · exact ⟨⟨'b', "old red".toList, rfl, by decide, by decide, by decide, rfl⟩,
      ⟨'/', "bold red".toList, rfl, by decide, by decide, by decide, rfl⟩⟩
  · exact ⟨⟨'y', "ellow".toList, rfl, by decide, by decide, by decide, rfl⟩,
      ⟨'/', "yellow".toList, rfl, by decide, by decide, by decide, rfl⟩⟩
  · exact ⟨⟨'d', "im".toList, rfl, by decide, by decide, by decide, rfl⟩,
      ⟨'/', "dim".toList, rfl, by decide, by decide, by decide, rfl⟩⟩
  · exact ⟨⟨'g', "l.ok".toList, rfl, by decide, by decide, by decide, rfl⟩,
      ⟨'/', "gl.ok".toList, rfl, by decide, by decide, by decide, rfl⟩⟩

/-- The closing tag of a style closes what its opening tag has opened. -/
theorem textOf_styles : ∀ style ∈ Printer.styles,
    (∀ ps, textOf [] (.tag style :: ps) = textOf [styleName style] ps)
      ∧ ∀ ps, textOf [styleName style] (.tag ("/" ++ style) :: ps) = textOf [] ps := by
  simp only [Printer.styles, List.forall_mem_cons]
  refine ⟨⟨fun ps => ?_, fun ps => ?_⟩, ⟨fun ps => ?_, fun ps => ?_⟩, ⟨fun ps => ?_, fun ps => ?_⟩,
    ⟨fun ps => ?_, fun ps => ?_⟩, by simp⟩ <;> (rw [textOf]; rfl)

/-- A style that is opened and closed again is not to be seen. -/
theorem plain_styled {style : Text} (h : style ∈ Printer.styles) (hb : b.Bare) (t : Text) :
    plain ("[" ++ style ++ "]" ++ b ++ "[/" ++ style ++ "]" ++ t) = (plain t).map (b ++ ·) := by
  obtain ⟨hopens, hcloses⟩ := textOf_styles style h
  have hopen := (spells_styles style h (b ++ ("[/" ++ style ++ "]" ++ t))).1
  have hclose := (spells_styles style h t).2
  have hassoc : ("[" ++ style ++ "]" ++ b ++ "[/" ++ style ++ "]" ++ t : Text)
      = "[" ++ style ++ "]" ++ (b ++ ("[/" ++ style ++ "]" ++ t)) := by
    simp only [List.append_assoc]
  rw [plain, hassoc, pieces_of_tag (tagHere?_eq_some_iff.mpr hopen), textOf, tagPiece,
    if_neg (by decide), hopens, pieces_append hb.1 hb.2.2, textOf_letters_append,
    pieces_of_tag (tagHere?_eq_some_iff.mpr hclose), textOf, tagPiece, if_neg (by decide), hcloses,
    plain]
  cases textOf [] (pieces t) <;> rfl

end TagLint.Console.Markup
