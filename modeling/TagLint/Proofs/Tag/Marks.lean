import TagLint.Proofs.Tag.Entry
import TagLint.Proofs.Text.Words

/-! The marks of a tag literal that start a name, and the segment that is read behind them. -/
namespace TagLint.Segment
open Text

variable {literal before rest a r s t cs : Text} {previous : Option Char} {quote c : Char}

/-! ## Texts in quotes -/

/-- What may stand between two quotes: characters other than the quote and the backslash, and
backslashes with the character that each takes. -/
inductive Quoted (quote : Char) : Text → Prop
  | nil : Quoted quote []
  | char {c : Char} {t : Text} (hquote : c ≠ quote) (hslash : c ≠ '\\') (h : Quoted quote t) :
      Quoted quote (c :: t)
  | escaped {c : Char} {t : Text} (hc : c ≠ '\n') (h : Quoted quote t) :
    Quoted quote ('\\' :: c :: t)

theorem quoted_of_plain (ht : ∀ c ∈ t, c ≠ quote ∧ c ≠ '\\') : Quoted quote t := by
  induction t with
  | nil => exact .nil
  | cons c t ih =>
    obtain ⟨⟨hquote, hslash⟩, ht⟩ := List.forall_mem_cons.mp ht
    exact .char hquote hslash (ih ht)

theorem untilQuote?_cons (hc : c ≠ '\\') (quote : Char) (cs : Text) :
    untilQuote? quote (c :: cs) = if c = quote then some []
      else (untilQuote? quote cs).map (c :: ·) := by
  rw [untilQuote?]
  · exact fun h _ => hc h
  · exact fun _ _ h _ => hc h

theorem untilQuote?_append (hquote : quote ≠ '\\') (h : Quoted quote s) (t : Text) :
    untilQuote? quote (s ++ quote :: t) = some s := by
  induction h with
  | nil => rw [List.nil_append, untilQuote?_cons hquote, if_pos rfl]
  | char hne hslash _ ih => rw [List.cons_append, untilQuote?_cons hslash, if_neg hne, ih]; rfl
  | escaped hc _ ih => rw [List.cons_append, List.cons_append, untilQuote?, if_neg hc, ih]; rfl

/-- Reading to a quote is cutting a text in two: nothing but one quoted text fits. -/
theorem untilQuote?_eq_some_iff (hquote : quote ≠ '\\') :
    untilQuote? quote cs = some s ↔ Quoted quote s ∧ ∃ t, cs = s ++ quote :: t := by
  constructor
  · intro h
    fun_induction untilQuote? quote cs generalizing s with
    | case1 => simp at h
    | case2 => simp at h
    | case3 => simp at h
    | case4 d cs hd ih =>
      obtain ⟨s, hs, rfl⟩ := Option.map_eq_some_iff.mp h
      obtain ⟨hquoted, t, rfl⟩ := ih hs
      exact ⟨.escaped hd hquoted, t, rfl⟩
    | case5 cs hnil hcons =>
      obtain rfl : [] = s := by simpa using h
      exact ⟨.nil, cs, rfl⟩
    | case6 c cs hnil hcons hc ih =>
      obtain ⟨s, hs, rfl⟩ := Option.map_eq_some_iff.mp h
      obtain ⟨hquoted, t, rfl⟩ := ih hs
      have hslash : c ≠ '\\' := by
        rintro rfl
        cases hsplit : s ++ quote :: t with
        | nil => simp at hsplit
        | cons d r => exact hcons d r rfl hsplit
      exact ⟨.char hc hslash hquoted, t, rfl⟩
  · rintro ⟨hs, t, rfl⟩
    exact untilQuote?_append hquote hs t

/-- Inside of quotes, only a backslash makes a quote possible. -/
theorem Quoted.getLast?_eq (hquote : quote ≠ '\\') (h : Quoted quote (a ++ quote :: r)) :
    a.getLast? = some '\\' := by
  generalize ht : a ++ quote :: r = t at h
  induction h generalizing a with
  | nil => simp at ht
  | char hne hslash _ ih =>
    cases a with
    | nil => exact absurd (List.cons.inj ht).1.symm hne
    | cons d a => rw [List.getLast?_cons, ih (List.cons.inj ht).2, Option.getD_some]
  | escaped hc _ ih =>
    cases a with
    | nil => exact absurd (List.cons.inj ht).1 hquote
    | cons d a =>
      obtain ⟨rfl, htail⟩ := List.cons.inj ht
      cases a with
      | nil => rfl
      | cons e a =>
        rw [List.getLast?_cons, List.getLast?_cons, ih (List.cons.inj htail).2]
        rfl

/-- The text starts with `s` in quotes. -/
structure Encloses (quote : Char) (t s : Text) : Prop where
  quoted : Quoted quote s
  closed : ∃ r, t = quote :: (s ++ quote :: r)

theorem encloses_iff (hquote : quote ≠ '\\') :
    Encloses quote t s ↔ ∃ r, t = quote :: r ∧ untilQuote? quote r = some s := by
  constructor
  · rintro ⟨hs, r, rfl⟩
    exact ⟨_, rfl, untilQuote?_append hquote hs r⟩
  · rintro ⟨r, rfl, hr⟩
    obtain ⟨hs, u, rfl⟩ := (untilQuote?_eq_some_iff hquote).mp hr
    exact ⟨hs, u, rfl⟩

namespace Convention

theorem read?_double_iff : double.read? t = some s ↔ Encloses '"' t s := by
  rw [encloses_iff (by decide)]
  constructor
  · intro h
    rw [read?.eq_def] at h
    split at h <;> simp_all
  · rintro ⟨r, rfl, hr⟩
    exact hr

theorem read?_single_iff : single.read? t = some s ↔ Encloses '\'' t s := by
  rw [encloses_iff (by decide)]
  constructor
  · intro h
    rw [read?.eq_def] at h
    split at h <;> simp_all
  · rintro ⟨r, rfl, hr⟩
    exact hr

theorem getD_read?_bare (t : Text) : (bare.read? t).getD [] = t.takeWhile isBareChar := by
  rw [read?]
  split
  · rename_i hnil
    rw [hnil]
    rfl
  · rfl

end Convention

/-! ## Marks -/

/-- What stands behind each mark that starts a name, in order. -/
def behind (previous : Option Char) : Text → List Text
  | [] => []
  | c :: cs =>
    (if startsName previous then (after? mark (c :: cs)).toList else []) ++ behind (some c) cs

/-- A search tries the marks in order. -/
theorem search?_eq_findSome? (convention : Convention) (previous : Option Char) (t : Text) :
    search? convention previous t = (behind previous t).findSome? convention.read? := by
  induction t generalizing previous with
  | nil => rfl
  | cons c t ih =>
    rw [search?, behind, List.findSome?_append, ← ih]
    by_cases hp : startsName previous
    · rw [if_pos hp, if_pos hp]
      cases after? mark (c :: t) with
      | none => rfl
      | some r =>
        cases hr : convention.read? r <;> simp [hr]
    · rw [if_neg hp, if_neg hp]
      rfl

theorem decode_eq (literal : Text) :
    decode literal = ((behind none literal).findSome? Convention.double.read?
      <|> (behind none literal).findSome? Convention.single.read?
      <|> (behind none literal).findSome? Convention.bare.read?).getD [] := by
  rw [decode, search?_eq_findSome?, search?_eq_findSome?, search?_eq_findSome?]

theorem startsName_iff : startsName previous ↔ ∀ c ∈ previous, isNameChar c = false := by
  cases previous <;> simp [startsName]

theorem mem_behind_iff :
    r ∈ behind previous t ↔ ∃ a, t = a ++ (mark ++ r) ∧ startsName (a.getLast?.or previous) := by
  induction t generalizing previous with
  | nil => simp [behind, mark]
  | cons c t ih =>
    rw [behind, List.mem_append, ih]
    constructor
    · rintro (h | ⟨a, rfl, ha⟩)
      · obtain ⟨hp, hr⟩ : startsName previous ∧ after? mark (c :: t) = some r := by
          split at h <;> simp_all
        exact ⟨[], (after?_eq_some_iff (s := mark)).mp hr, hp⟩
      · refine ⟨c :: a, rfl, ?_⟩
        cases hlast : a.getLast? <;> simpa [List.getLast?_cons, hlast] using ha
    · rintro ⟨a, ht, ha⟩
      cases a with
      | nil =>
        have hp : startsName previous := ha
        left
        rw [if_pos hp, (after?_eq_some_iff (s := mark)).mpr ht]
        simp
      | cons d a =>
        obtain ⟨rfl, rfl⟩ := List.cons.inj ht
        refine .inr ⟨a, rfl, ?_⟩
        cases hlast : a.getLast? <;> simpa [List.getLast?_cons, hlast] using ha

theorem behind_of_unmarked (h : ¬ mark <:+: t) (previous : Option Char) :
    behind previous t = [] := by
  rw [List.eq_nil_iff_forall_not_mem]
  intro r hr
  obtain ⟨a, rfl, -⟩ := mem_behind_iff.mp hr
  exact h ⟨a, r, by simp⟩

/-! ## Literals with one mark -/

/-- The mark stands in the literal between `before` and `rest`, and at no other place. -/
structure MarkedOnce (literal before rest : Text) : Prop where
  eq : literal = before ++ (mark ++ rest)
  once : ∀ n < literal.length, mark <+: literal.drop n → n = before.length

theorem MarkedOnce.length_eq (h : MarkedOnce literal before rest)
    (ha : literal = a ++ (mark ++ r)) :
    a.length = before.length := by
  apply h.once
  · rw [ha]
    simp [mark]
  · rw [ha, List.drop_left]
    exact List.prefix_append mark r

theorem behind_append_mark
    (h : ∀ a r, before ++ (mark ++ rest) = a ++ (mark ++ r) → a.length = before.length)
    (previous : Option Char) :
    behind previous (before ++ (mark ++ rest))
      = if startsName (before.getLast?.or previous) then [rest] else [] := by
  induction before generalizing previous with
  | nil =>
    have hrest : ¬ mark <:+: "orm:".toList ++ rest := by
      rintro ⟨x, y, hxy⟩
      rw [List.append_assoc] at hxy
      have hlen := h ('g' :: x) y (congrArg ('g' :: ·) hxy.symm)
      simp at hlen
    have hafter : after? mark (mark ++ rest) = some rest := after?_append mark rest
    have hcons : mark ++ rest = 'g' :: ("orm:".toList ++ rest) := rfl
    rw [List.nil_append, hcons, behind, behind_of_unmarked hrest, ← hcons, hafter, List.append_nil]
    rfl
  | cons c before ih =>
    have hnone : after? mark (c :: (before ++ (mark ++ rest))) = none := by
      cases hafter : after? mark (c :: (before ++ (mark ++ rest))) with
      | none => rfl
      | some r =>
        have hlen := h [] r ((after?_eq_some_iff (s := mark)).mp hafter)
        simp at hlen
    have hrest := ih fun a r har => by
      have hlen := h (c :: a) r (congrArg (c :: ·) har)
      simpa using hlen
    rw [List.cons_append, behind, hnone, hrest]
    cases hlast : before.getLast? <;> simp [List.getLast?_cons, hlast]

theorem MarkedOnce.behind_eq (h : MarkedOnce literal before rest) :
    behind none literal = if startsName before.getLast? then [rest] else [] := by
  have hplace : ∀ a r, before ++ (mark ++ rest) = a ++ (mark ++ r) → a.length = before.length :=
    fun a r har => h.length_eq (h.eq.trans har)
  rw [h.eq, behind_append_mark hplace, Option.or_none]

/-- A literal with one mark is read as what stands behind it, whatever stands around it: nothing
when the mark ends a longer name, else the text in double quotes, else that in single quotes, else
the longest start without blanks, semicolons and backticks. -/
theorem decode_markedOnce (h : MarkedOnce literal before rest) :
    ((∃ c ∈ before.getLast?, isNameChar c) → decode literal = [])
      ∧ ((∀ c ∈ before.getLast?, isNameChar c = false) →
        (∀ s, Encloses '"' rest s → decode literal = s)
        ∧ ((∀ s, ¬ Encloses '"' rest s) → ∀ s, Encloses '\'' rest s → decode literal = s)
        ∧ ((∀ s, ¬ Encloses '"' rest s) → (∀ s, ¬ Encloses '\'' rest s) →
          decode literal = rest.takeWhile isBareChar)) := by
  constructor
  · rintro ⟨c, hc, hname⟩
    have hstart : ¬ startsName before.getLast? := by
      rw [startsName_iff]
      exact fun hall => Bool.false_ne_true ((hall c hc).symm.trans hname)
    rw [decode_eq, h.behind_eq, if_neg hstart]
    rfl
  · intro hstart
    have hread : decode literal = (Convention.double.read? rest <|> Convention.single.read? rest
        <|> Convention.bare.read? rest).getD [] := by
      rw [decode_eq, h.behind_eq, if_pos (startsName_iff.mpr hstart)]
      simp only [List.findSome?_singleton]
    have hdouble : (∀ s, ¬ Encloses '"' rest s) → Convention.double.read? rest = none := fun hno =>
      Option.eq_none_iff_forall_ne_some.mpr fun s hs => hno s (Convention.read?_double_iff.mp hs)
    have hsingle : (∀ s, ¬ Encloses '\'' rest s) → Convention.single.read? rest = none := fun hno =>
      Option.eq_none_iff_forall_ne_some.mpr fun s hs => hno s (Convention.read?_single_iff.mp hs)
    refine ⟨fun s hs => ?_, fun hno s hs => ?_, fun hno hno' => ?_⟩
    · rw [hread, Convention.read?_double_iff.mpr hs]
      rfl
    · rw [hread, hdouble hno, Convention.read?_single_iff.mpr hs]
      rfl
    · rw [hread, hdouble hno, hsingle hno', ← Convention.getD_read?_bare]
      rfl

/-- A quote that is left open does not keep the text behind it from being read. -/
theorem decode_markedOnce_openQuote :
    MarkedOnce "json:'id' gorm:\"size:64 x".toList "json:'id' ".toList "\"size:64 x".toList
      ∧ decode "json:'id' gorm:\"size:64 x".toList = "\"size:64".toList := by
  have honce :
      MarkedOnce "json:'id' gorm:\"size:64 x".toList "json:'id' ".toList "\"size:64 x".toList :=
    ⟨rfl, by decide +kernel⟩
  have hdouble : ∀ s, ¬ Encloses '"' "\"size:64 x".toList s := by
    intro s hs
    have hread := Convention.read?_double_iff.mpr hs
    have hnone : Convention.double.read? "\"size:64 x".toList = none := by decide
    exact absurd (hnone.symm.trans hread) (by simp)
  have hsingle : ∀ s, ¬ Encloses '\'' "\"size:64 x".toList s := by
    rintro s ⟨-, r, hr⟩
    exact absurd (List.cons.inj hr).1 (by decide)
  exact ⟨honce, ((decode_markedOnce honce).2 (by decide)).2.2 hdouble hsingle⟩

end TagLint.Segment
