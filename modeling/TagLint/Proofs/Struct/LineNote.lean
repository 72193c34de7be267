import TagLint.Proofs.Struct.FieldTexts
import TagLint.Proofs.Struct.Interchange
import TagLint.Proofs.Struct.PlainLine

/-! A note at the end of a line, and the bodies that do not see it. -/
namespace TagLint
open Text

variable {b cs r s t u w : Text} {c : Char} {p : Char → Bool}

namespace Text

/-- Blanks and a line comment. -/
inductive Trailing : Text → Prop
  | mk {b z : Text} (hne : b ≠ []) (hb : ∀ c ∈ b, isBlank c) : Trailing (b ++ '/' :: '/' :: z)

theorem Trailing.head (h : Trailing u) : ∃ c r, u = c :: r ∧ isBlank c := by
  obtain ⟨hne, hb⟩ := h
  rename_i b z
  obtain ⟨c, b, rfl⟩ := List.exists_cons_of_ne_nil hne
  exact ⟨c, b ++ '/' :: '/' :: z, rfl, hb c List.mem_cons_self⟩

theorem Trailing.slash_mem (h : Trailing u) : '/' ∈ u := by
  obtain ⟨-, -⟩ := h
  simp

theorem Trailing.trimLeft (h : Trailing u) : ∃ z, Text.trimLeft u = '/' :: z := by
  obtain ⟨-, hb⟩ := h
  exact ⟨_, by rw [trimLeft_append_of_blank hb, trimLeft_cons (by decide)]⟩

theorem trimLeft_append_cases (t u : Text) :
    trimLeft t = [] ∧ trimLeft (t ++ u) = trimLeft u ∨ trimLeft t ≠ [] ∧
    trimLeft (t ++ u) = trimLeft t ++ u := by
  have hdrop : trimLeft (t ++ u) = if (trimLeft t).isEmpty then trimLeft u else trimLeft t ++ u :=
    List.dropWhile_append
  by_cases hnil : trimLeft t = []
  · rw [hnil] at hdrop
    exact .inl ⟨hnil, hdrop⟩
  · rw [if_neg (by simpa using hnil)] at hdrop
    exact .inr ⟨hnil, hdrop⟩

/-- A class without blanks stops in front of the comment. -/
theorem Trailing.span_append (h : Trailing u) (hp : ∀ c, p c → isBlank c = false) (t : Text) :
    (t ++ u).takeWhile p = t.takeWhile p ∧ (t ++ u).dropWhile p = t.dropWhile p ++ u := by
  obtain ⟨c, r, rfl, hc⟩ := h.head
  have hstop : p c = false := by
    refine Bool.eq_false_iff.mpr fun hpc => ?_
    rw [hp c hpc] at hc
    exact absurd hc (by decide)
  induction t with
  | nil => simp [hstop]
  | cons d t ih =>
    cases hd : p d with
    | true => simpa [hd] using ih
    | false => simp [hd]

theorem count_dropWhile (hc : p c = false) (t : Text) : (t.dropWhile p).count c = t.count c := by
  have hnone : (t.takeWhile p).count c = 0 := by
    refine List.count_eq_zero_of_not_mem fun hm => ?_
    have := List.all_eq_true.mp List.all_takeWhile c hm
    exact Bool.false_ne_true (hc.symm.trans this)
  have hsplit := congrArg (List.count c) (List.takeWhile_append_dropWhile (p := p) (l := t))
  rw [List.count_append, hnone, Nat.zero_add] at hsplit
  exact hsplit

theorem count_trimRight (hc : isBlank c = false) (t : Text) :
    (trimRight t).count c = t.count c := by
  rw [trimRight, List.count_reverse, count_dropWhile hc, List.count_reverse]

/-- A comment is cut off, and no blanks count that are left. -/
theorem Trailing.exists_before (h : Trailing u) (w : Text) :
    ∃ b, (∀ c ∈ b, isBlank c) ∧ before "//" (w ++ u) = before "//" w ++ b := by
  induction w with
  | nil =>
    obtain ⟨-, hb⟩ := h
    rename_i b z
    have hslash : '/' ∉ b := not_mem_of_class hb (by decide)
    exact ⟨b, hb, before_comment_append hslash z⟩
  | cons c w ih =>
    obtain ⟨b, hb, hbefore⟩ := ih
    by_cases hc : c = '/'
    · subst hc
      by_cases hslash : w.head? = some '/'
      · obtain ⟨w, rfl⟩ := List.head?_eq_some_iff.mp hslash
        exact ⟨[], by simp, by simp [before, find?]⟩
      · have hslash' : (w ++ u).head? ≠ some '/' := by
          obtain ⟨d, r, rfl, hd⟩ := h.head
          cases w with
          | nil =>
            rintro heq
            obtain rfl : d = '/' := by simpa using heq
            exact absurd hd (by decide)
          | cons e w => simpa using hslash
        refine ⟨b, hb, ?_⟩
        rw [List.cons_append, Brace.before_comment_slash hslash', hbefore,
          Brace.before_comment_slash hslash]
        rfl
    · have hnot : '/' ∉ [c] := by simpa [eq_comm] using hc
      refine ⟨b, hb, ?_⟩
      have hleft := Brace.before_comment_append_of_not_mem hnot (w ++ u)
      have hright := Brace.before_comment_append_of_not_mem hnot w
      rw [List.singleton_append] at hleft hright
      rw [List.cons_append, hleft, hright, hbefore, List.append_assoc]

end Text

/-! ## Raw strings and braces -/

/-- What is put behind the text does not close a raw string that is open in it. -/
def Sealed (s t : Text) : Prop := backtick ∉ t ∨ s.count backtick % 2 = 0

theorem Sealed.of_count (h : Sealed s t) (hr : r.count backtick = s.count backtick) : Sealed r t :=
  h.imp_right fun heven => hr ▸ heven

theorem sealed_of_not_mem (hs : backtick ∉ s) (t : Text) : Sealed s t :=
  .inr (by simp [List.count_eq_zero_of_not_mem hs])

namespace Brace

theorem exists_of_rawSpan? {n : Nat} (h : rawSpan? r = some n) :
    ∃ x y, r = x ++ backtick :: y ∧ backtick ∉ x ∧ r.drop n = y := by
  obtain ⟨k, hk, rfl⟩ := Option.map_eq_some_iff.mp h
  have hm : backtick ∈ r := by
    obtain ⟨hlt, hget, -⟩ := List.findIdx?_eq_some_iff_getElem.mp hk
    rw [← eq_of_beq hget]
    exact List.getElem_mem hlt
  obtain ⟨x, y, rfl, hx⟩ := List.eq_append_cons_of_mem hm
  rw [findIdx?_append_cons hx] at hk
  obtain rfl : x.length = k := by simpa using hk
  refine ⟨x, y, rfl, hx, ?_⟩
  rw [List.append_cons]
  exact List.drop_left' (by simp)

theorem rawSpan?_eq_none_iff : rawSpan? r = none ↔ backtick ∉ r := by
  constructor
  · intro h hm
    obtain ⟨x, y, rfl, hx⟩ := List.eq_append_cons_of_mem hm
    rw [rawSpan?_append hx] at h
    exact absurd h (Option.some_ne_none _)
  · intro h
    rw [rawSpan?, findIdx?_eq_none_of_not_mem h]
    rfl

/-- A lone backtick stays, with all that is behind it. -/
theorem withoutRaw_lone (hr : backtick ∉ r) : withoutRaw (backtick :: r) = backtick :: r := by
  rw [withoutRaw, if_pos rfl, rawSpan?_eq_none_iff.mpr hr]

theorem withoutRaw_append_of_sealed (h : Sealed s t) :
    withoutRaw (s ++ t) = withoutRaw s ++ withoutRaw t := by
  fun_induction withoutRaw s with
  | case1 => rfl
  | case2 r n hn ih =>
    obtain ⟨x, y, rfl, hx, hdrop⟩ := exists_of_rawSpan? hn
    rw [hdrop] at ih ⊢
    have hrest : Sealed y t := by
      refine h.imp_right fun heven => ?_
      rw [List.count_cons_self, List.count_append, List.count_eq_zero_of_not_mem hx,
        List.count_cons_self]
        at heven
      omega
    calc withoutRaw (backtick :: (x ++ backtick :: y) ++ t)
        = withoutRaw (backtick :: x ++ backtick :: (y ++ t)) := by simp
      _ = withoutRaw (y ++ t) := withoutRaw_raw hx _
      _ = withoutRaw y ++ withoutRaw t := ih hrest
  | case3 r hn =>
    have hr := rawSpan?_eq_none_iff.mp hn
    have ht : backtick ∉ t := by
      refine h.resolve_right fun heven => ?_
      rw [List.count_cons_self, List.count_eq_zero_of_not_mem hr] at heven
      exact absurd heven (by decide)
    rw [List.cons_append, withoutRaw_lone (by simp [hr, ht]), withoutRaw_of_not_mem ht,
      List.cons_append]
  | case4 c r hc ih =>
    have hrest : Sealed r t := by
      refine h.imp_right fun heven => ?_
      rwa [List.count_cons_of_ne hc] at heven
    rw [List.cons_append, withoutRaw_cons hc, ih hrest, List.cons_append]

theorem trailing_withoutRaw (h : Trailing u) : Trailing (withoutRaw u) := by
  obtain ⟨hne, hb⟩ := h
  have hback : backtick ∉ _ := not_mem_of_class hb (by decide)
  rw [withoutRaw_append hback, withoutRaw_cons (by decide), withoutRaw_cons (by decide)]
  exact .mk hne hb

/-- A line counts as many braces without the comment. -/
theorem delta_append_trailing (hu : Trailing u) (h : Sealed s u) : delta (s ++ u) = delta s := by
  obtain ⟨b, hb, hbefore⟩ := (trailing_withoutRaw hu).exists_before (withoutRaw s)
  rw [delta_eq_balance, withoutRaw_append_of_sealed h, hbefore, balance_append, balance_of_blank hb,
    Int.add_zero, delta_eq_balance]

end Brace

/-! ## Declarations -/

namespace FieldLine

theorem names?_of_comma {more : Text} (hne : cs.takeWhile isWord ≠ [])
    (h : trimLeft (cs.dropWhile isWord) = ',' :: more) :
    names? cs = match names? (trimLeft more) with
      | some (words, rest) => some (cs.takeWhile isWord :: words, rest)
      | none => some ([cs.takeWhile isWord], cs.dropWhile isWord) := by
  rw [names?, if_neg hne]
  split
  · rename_i more' hmore
    obtain rfl : more = more' := by
      rw [h] at hmore
      exact (List.cons.inj hmore).2
    rfl
  · rename_i hnone
    exact absurd h (hnone more)

theorem names?_of_no_word (h : cs.takeWhile isWord = []) : names? cs = none := by
  rw [names?, if_pos h]

/-- The names are the same before a comment, and it is part of the rest. -/
theorem names?_append (hu : Trailing u) (cs : Text) :
    names? (cs ++ u) = (names? cs).map fun (words, rest) => (words, rest ++ u) := by
  induction hn : cs.length using Nat.strongRecOn generalizing cs with
  | ind n ih =>
    subst hn
    obtain ⟨htake, hdrop⟩ := hu.span_append (p := isWord) (fun _ => isBlank_eq_false_of_isWord) cs
    obtain ⟨z, hslash⟩ := hu.trimLeft
    by_cases hne : cs.takeWhile isWord = []
    · rw [names?_of_no_word hne, names?_of_no_word (htake.trans hne)]
      rfl
    -- Without a comma behind the first word, both texts give that word alone.
    have hsingle : (∀ c ∈ (trimLeft (cs.dropWhile isWord)).head?, c ≠ ',') →
        (∀ c ∈ (trimLeft (cs.dropWhile isWord ++ u)).head?, c ≠ ',') →
        names? (cs ++ u) = (names? cs).map fun (words, rest) => (words, rest ++ u) := by
      intro hcomma hcomma'
      rw [← hdrop] at hcomma'
      rw [names?_of_not_comma hcomma, names?_of_not_comma hcomma', htake, hdrop, if_neg hne,
        if_neg hne]
      rfl
    rcases trimLeft_append_cases (cs.dropWhile isWord) u with ⟨hnil, hrest⟩ | ⟨hsome, hrest⟩
    · exact hsingle (by simp [hnil]) (by simp [hrest, hslash])
    obtain ⟨c, more, hc⟩ := List.exists_cons_of_ne_nil hsome
    rw [hc] at hrest
    by_cases hcomma : c = ','
    · subst hcomma
      have hlt : (trimLeft more).length < cs.length := by
        have h₁ := trimLeft_length_le more
        have h₂ := trimLeft_length_le (cs.dropWhile isWord)
        have h₃ := (List.dropWhile_sublist (l := cs) isWord).length_le
        rw [hc, List.length_cons] at h₂
        omega
      have hmore : trimLeft ((cs ++ u).dropWhile isWord) = ',' :: (more ++ u) := by
        rw [hdrop]
        exact hrest
      rw [names?_of_comma hne hc, names?_of_comma (by rwa [htake]) hmore, htake, hdrop]
      rcases trimLeft_append_cases more u with ⟨hnil, hend⟩ | ⟨-, hend⟩
      · rw [hnil, hend, hslash, names?_of_no_word rfl, names?_of_no_word rfl]
        rfl
      · rw [hend, ih _ hlt _ rfl]
        cases names? (trimLeft more) <;> rfl
    · exact hsingle (by simpa [hc] using hcomma) (by simpa [hrest] using hcomma)

theorem count_names? {words : List Text} (h : names? cs = some (words, r)) :
    r.count backtick = cs.count backtick := by
  have hrest : ∀ t : Text, (t.dropWhile isWord).count backtick = t.count backtick :=
    count_dropWhile (by decide)
  have hleft : ∀ t : Text, (trimLeft t).count backtick = t.count backtick :=
    count_dropWhile (by decide)
  fun_induction names? cs generalizing words r with
  | case1 => simp at h
  | case2 cs word after hne more hmore ws r' =>
    rename_i hws ih
    obtain ⟨-, rfl⟩ := Prod.mk.inj (Option.some.inj h)
    have hcount := congrArg (List.count backtick) hmore
    rw [hleft, hrest, List.count_cons_of_ne (by decide)] at hcount
    rw [ih hws, hleft, hcount]
  | case3 cs | case4 cs =>
    obtain ⟨-, rfl⟩ := Prod.mk.inj (Option.some.inj h)
    exact hrest cs

theorem declaration?_append (hu : Trailing u) (cs : Text) :
    declaration? (cs ++ u)
      = (declaration? cs).map fun (words, declared, rest) => (words, declared, rest ++ u) := by
  rw [declaration?, declaration?, names?_append hu]
  cases names? cs with
  | none => rfl
  | some p =>
    obtain ⟨words, rest⟩ := p
    simp only [Option.bind_eq_bind, Option.map_some, Option.bind_some]
    obtain ⟨z, hslash⟩ := hu.trimLeft
    rcases trimLeft_append_cases rest u with ⟨hnil, hrest⟩ | ⟨-, hrest⟩
    · -- No type follows the names, with the comment or without it.
      have hnone : ∀ o : Option Text, o = none ∨ o = some ('/' :: z) ∨ o = some [] →
          (o.bind fun tail =>
            if tail.takeWhile isTypeChar = [] then none
            else some (words, tail.takeWhile isTypeChar, tail.dropWhile isTypeChar)) = none := by
        rintro o (rfl | rfl | rfl) <;> rfl
      rw [hnone, hnone]
      · rfl
      · rw [afterBlanks?, hnil]
        split <;> simp
      · rw [afterBlanks?, hrest, hslash]
        split <;> simp
    · have hafter : afterBlanks? (rest ++ u) = (afterBlanks? rest).map (· ++ u) := by
        rw [afterBlanks?, afterBlanks?, hrest]
        simp only [List.length_append, Nat.add_lt_add_iff_right]
        split <;> rfl
      rw [hafter]
      cases afterBlanks? rest with
      | none => rfl
      | some tail =>
        obtain ⟨htake, hdrop⟩ :=
          hu.span_append (p := isTypeChar) (fun _ => Source.isTypeChar_isBlank) tail
        simp only [Option.map_some, Option.bind_some, htake, hdrop]
        split <;> rfl

theorem count_declaration? {words : List Text} {declared : Text}
    (h : declaration? cs = some (words, declared, r)) : r.count backtick = cs.count backtick := by
  simp only [declaration?, Option.bind_eq_bind, Option.bind_eq_some_iff] at h
  obtain ⟨⟨ws, tail⟩, hnames, t, ht, h⟩ := h
  obtain ⟨b, -, hb, -, rfl⟩ := afterBlanks?_eq_some_iff.mp ht
  have hblank : backtick ∉ b := not_mem_of_class hb (by decide)
  split at h
  · simp at h
  · obtain ⟨-, -, rfl⟩ : ws = words ∧ _ ∧ t.dropWhile isTypeChar = r := by simpa using h
    rw [count_dropWhile (by decide), ← count_names? hnames, List.count_append,
      List.count_eq_zero_of_not_mem hblank, Nat.zero_add]

theorem embedded?_append (hu : Trailing u) (cs : Text) :
    embedded? (cs ++ u) = (embedded? cs).map fun (name, rest) => (name, rest ++ u) := by
  have hspan := hu.span_append (p := isPathChar) fun _ hc =>
    Source.isTypeChar_isBlank (Source.isPathChar_isTypeChar hc)
  by_cases hstar : ∃ path, cs = '*' :: path
  · obtain ⟨path, rfl⟩ := hstar
    rw [embedded?, List.cons_append, embedded?]
    simp only [hspan path]
    split <;> rfl
  · have hne : ∀ path, cs ≠ '*' :: path := fun path heq => hstar ⟨path, heq⟩
    have hne' : ∀ path, cs ++ u ≠ '*' :: path := by
      intro path heq
      cases cs with
      | nil =>
        obtain ⟨c, r, rfl, hc⟩ := hu.head
        obtain ⟨rfl, -⟩ := List.cons.inj heq
        exact absurd hc (by decide)
      | cons c cs => exact hne cs (by rw [(List.cons.inj heq).1])
    rw [embedded?_of_head hne, embedded?_of_head hne']
    simp only [hspan cs]
    split <;> rfl

theorem count_embedded? {name : Text} (h : embedded? cs = some (name, r)) :
    r.count backtick = cs.count backtick := by
  have hrest : ∀ t : Text, (t.dropWhile isPathChar).count backtick = t.count backtick :=
    count_dropWhile (by decide)
  by_cases hstar : ∃ path, cs = '*' :: path
  · obtain ⟨path, rfl⟩ := hstar
    rw [embedded?] at h
    obtain ⟨-, -, rfl⟩ : _ ∧ _ ∧ path.dropWhile isPathChar = r := by simpa using h
    rw [hrest, List.count_cons_of_ne (by decide)]
  · rw [embedded?_of_head fun path heq => hstar ⟨path, heq⟩] at h
    obtain ⟨-, -, rfl⟩ : _ ∧ _ ∧ cs.dropWhile isPathChar = r := by simpa using h
    exact hrest cs

/-! ## Tags -/

theorem tag?_of_not_mem (hr : backtick ∉ r) : tag? r = none := by
  have hleft : backtick ∉ trimLeft r := fun hm => hr ((List.dropWhile_sublist isBlank).mem hm)
  rw [tag?]
  cases ht : trimLeft r with
  | nil => rfl
  | cons c cs =>
    rw [ht] at hleft
    exact if_neg (Ne.symm (List.ne_of_not_mem_cons hleft))

/-- A tag stays what it is, unless the comment closes it. -/
theorem tag?_append (hu : Trailing u) (h : Sealed r u) : tag? (r ++ u) = tag? r := by
  obtain ⟨z, hslash⟩ := hu.trimLeft
  have hcount : (trimLeft r).count backtick = r.count backtick := count_dropWhile (by decide) r
  rw [tag?, tag?]
  rcases trimLeft_append_cases r u with ⟨hnil, hrest⟩ | ⟨hsome, hrest⟩
  · rw [hrest, hnil, hslash]
    rfl
  · obtain ⟨c, cs, hc⟩ := List.exists_cons_of_ne_nil hsome
    rw [hrest, hc, List.cons_append]
    simp only
    by_cases hback : c = backtick
    · rw [if_pos hback, if_pos hback]
      by_cases hm : backtick ∈ cs
      · obtain ⟨x, y, rfl, hx⟩ := List.eq_append_cons_of_mem hm
        rw [List.append_assoc, List.cons_append, findIdx?_append_cons hx, findIdx?_append_cons hx]
        simp
      · -- A lone backtick: the comment holds none to close it.
        have hu' : backtick ∉ u := by
          refine h.resolve_right fun heven => ?_
          rw [← hcount, hc, hback, List.count_cons_self, List.count_eq_zero_of_not_mem hm] at heven
          exact absurd heven (by decide)
        rw [findIdx?_eq_none_of_not_mem hm, findIdx?_eq_none_of_not_mem (by simp [hm, hu'])]
        rfl
    · rw [if_neg hback, if_neg hback]

/-! ## Fields -/

theorem allBlank_eq_false (hc : isBlank c = false) (hm : c ∈ r) : allBlank r = false := by
  rw [allBlank, List.all_eq_false]
  exact ⟨c, hm, by simp [hc]⟩

theorem ending?_of_mem (hc : isBlank c = false) (hm : c ∈ r) : ending? r = tag? r := by
  rw [ending?, allBlank_eq_false hc hm]
  cases tag? r <;> rfl

theorem ending?_append (hu : Trailing u) (h : Sealed r u) : ending? (r ++ u) = tag? r := by
  rw [ending?_of_mem (c := '/') (by decide) (List.mem_append_right r hu.slash_mem),
    tag?_append hu h]

section

variable {e : Text → Option Text}

/-- Before a comment, all that the line is read as depends on what its ending is read as. -/
theorem named?_append (hu : Trailing u)
    (h : ∀ rest, rest.count backtick = s.count backtick → ending? (rest ++ u) = e rest) :
    named? (s ++ u) = (do
      let (names, declared, rest) ← declaration? s
      let tag ← e rest
      some (names.map fun n => ⟨n, declared, tag⟩)) := by
  rw [named?, declaration?_append hu]
  cases hd : declaration? s with
  | none => rfl
  | some p => simp [h _ (count_declaration? hd)]

theorem unnamed?_append (hu : Trailing u)
    (h : ∀ rest, rest.count backtick = s.count backtick → ending? (rest ++ u) = e rest) :
    unnamed? (s ++ u) = (do
      let (name, rest) ← embedded? s
      let tag ← e rest
      some [⟨name, name, tag⟩]) := by
  rw [unnamed?, embedded?_append hu]
  cases he : embedded? s with
  | none => rfl
  | some p => simp [h _ (count_embedded? he)]

end

/-- Where a raw string is, all of the line is read, and a comment behind it is not in the way. -/
theorem fields_append_of_mem (hu : Trailing u) (h : Sealed s u) (hs : backtick ∈ s) :
    fields (s ++ u) = fields s := by
  have hending : ∀ rest, rest.count backtick = s.count backtick →
      ending? (rest ++ u) = ending? rest := by
    intro rest hcount
    have hm : backtick ∈ rest := by
      rw [← List.count_pos_iff, hcount]
      exact List.count_pos_iff.mpr hs
    rw [ending?_append hu (h.of_count hcount), ending?_of_mem (by decide) hm]
  rw [fields, fields, declarationPart, declarationPart, if_pos (List.mem_append_left u hs),
    if_pos hs, named?_append hu hending, unnamed?_append hu hending]
  rfl

/-- Where the comment holds the first backtick of the line, it is not cut off, and nothing is
declared. -/
theorem fields_append_of_not_mem (hu : Trailing u) (hs : backtick ∉ s) (hback : backtick ∈ u) :
    fields (s ++ u) = [] := by
  have hending : ∀ rest, rest.count backtick = s.count backtick → ending? (rest ++ u) = none := by
    intro rest hcount
    have hm : backtick ∉ rest := by
      rw [← List.count_eq_zero, hcount]
      exact List.count_eq_zero_of_not_mem hs
    rw [ending?_append hu (sealed_of_not_mem hm u), tag?_of_not_mem hm]
  rw [fields, declarationPart, if_pos (List.mem_append_right s hback), named?_append hu hending,
    unnamed?_append hu hending]
  cases declaration? s <;> cases embedded? s <;> rfl

/-- Without backticks the comment is cut off. -/
theorem fields_append_of_plain (hu : Trailing u) (hs : backtick ∉ s) (hback : backtick ∉ u) :
    fields (s ++ u) = fields s := by
  obtain ⟨b, hb, hbefore⟩ := hu.exists_before s
  have hpart : declarationPart (s ++ u) = declarationPart s := by
    rw [declarationPart, declarationPart, if_neg (by simp [hs, hback]), if_neg hs, hbefore,
      trimRight_append_of_blank hb]
  rw [fields, hpart, fields]

end FieldLine

/-! ## Bodies -/

namespace Body

variable {l : Text}

/-- The line with a note behind it. -/
def noted (l c : Text) : Text := l ++ " // ".toList ++ c

theorem opener?_append (hu : Trailing u) (s : Text) : opener? (s ++ u) = none := by
  cases h : opener? (s ++ u) with
  | none => rfl
  | some name =>
    obtain ⟨a, r, heq, ha, hr⟩ := exists_of_opener? h
    have hslash : '/' ∉ a ++ '{' :: r := by
      have hright := not_mem_opener (c := '/') (fun c hc => .inr (.inl (hr c hc))) (by decide)
      simp [not_mem_opener ha (c := '/') (by decide), hright]
    rw [← heq] at hslash
    exact absurd (List.mem_append_right s hu.slash_mem) hslash

theorem closer?_append (hu : Trailing u) (h : Sealed s u) (hne : s ≠ []) :
    closer? (s ++ u) = closer? s := by
  obtain ⟨c, r, rfl⟩ := List.exists_cons_of_ne_nil hne
  by_cases hc : c = '}'
  · subst hc
    have hrest : Sealed r u := h.of_count (by rw [List.count_cons_of_ne (by decide)])
    rw [List.cons_append, closer?, closer?, FieldLine.tag?_append hu hrest]
  · simp [closer?, hc]

theorem alike_append (hu : Trailing u) (h : Sealed s u) (hne : s ≠ []) (hs : opener? s = none)
    (hfields : backtick ∉ s → backtick ∈ u → FieldLine.fields s = []) : Alike s (s ++ u) where
  opener := hs.trans (opener?_append hu s).symm
  fields := by
    intro _
    by_cases hback : backtick ∈ s
    · exact (FieldLine.fields_append_of_mem hu h hback).symm
    · by_cases hm : backtick ∈ u
      · rw [FieldLine.fields_append_of_not_mem hu hback hm, hfields hback hm]
      · exact (FieldLine.fields_append_of_plain hu hback hm).symm
  delta := (Brace.delta_append_trailing hu h).symm
  closer := fun _ => (closer?_append hu h hne).symm

theorem isContent_iff : isContent s ↔ s ≠ [] ∧ ¬ "//".toList <+: s := by
  rw [isContent, Bool.and_eq_true, Bool.not_eq_true', Bool.not_eq_true', List.isEmpty_eq_false_iff,
    ← Bool.not_eq_true, List.isPrefixOf_iff_prefix]

theorem isContent_append (hu : Trailing u) (hs : isContent s) : isContent (s ++ u) := by
  obtain ⟨hne, hslash⟩ := isContent_iff.mp hs
  refine isContent_iff.mpr ⟨by simp [hne], ?_⟩
  obtain ⟨c, r, rfl⟩ := List.exists_cons_of_ne_nil hne
  obtain ⟨b, v, rfl, hb⟩ := hu.head
  cases r with
  | nil =>
    rintro ⟨w, hw⟩
    obtain ⟨-, hw⟩ := List.cons.inj hw
    obtain ⟨rfl, -⟩ := List.cons.inj hw
    exact absurd hb (by decide)
  | cons d r => simpa using hslash

/-- What a trim leaves of a line with a note. -/
theorem exists_trim_noted (hne : trim l ≠ []) (c : Text) :
    ∃ u, Trailing u ∧ (backtick ∈ u ↔ backtick ∈ c) ∧ trim (noted l c) = trim l ++ u := by
  obtain ⟨a, b, ha, hb, hl⟩ := exists_eq_append_trim l
  have hblank : ∀ x ∈ b ++ [' '], isBlank x := by
    simp only [List.mem_append, List.mem_singleton]
    rintro x (hx | rfl)
    · exact hb x hx
    · decide
  have hnoted : noted l c = a ++ (trim l ++ ((b ++ [' '] ++ "//".toList) ++ ' ' :: c)) := by
    conv_lhs => rw [noted, hl]
    simp
  have hslash : ∀ x ∈ (b ++ [' '] ++ "//".toList).getLast?, isBlank x = false := by
    simp; decide
  have hback : backtick ∈ trimRight (' ' :: c) ↔ backtick ∈ c := by
    have hspace : backtick ≠ ' ' := by decide
    rw [← List.count_pos_iff, count_trimRight (by decide), List.count_pos_iff]
    simp [hspace]
  refine ⟨_, .mk (b := b ++ [' ']) (z := trimRight (' ' :: c)) (by simp) hblank, ?_, ?_⟩
  · have hleft : backtick ∉ b ++ [' '] := not_mem_of_class hblank (by decide)
    have hne : backtick ≠ '/' := by decide
    rw [List.mem_append, List.mem_cons, List.mem_cons, hback]
    simp [hne, hleft]
  · rw [hnoted, trim_append ha hne (head?_trim l) (getLast?_trim l), trimRight_append hslash]
    simp

/-- A line that says nothing says nothing with a note. -/
theorem isContent_noted_eq_false (hl : isContent (trim l) = false) (c : Text) :
    isContent (trim (noted l c)) = false := by
  have hslash : "//".toList <+: trim (noted l c) := by
    by_cases hnil : trim l = []
    · obtain ⟨a, b, ha, hb, heq⟩ := exists_eq_append_trim l
      have hblank : ∀ x ∈ a ++ b ++ [' '], isBlank x := by
        simp only [List.mem_append, List.mem_singleton]
        rintro x ((hx | hx) | rfl)
        · exact ha x hx
        · exact hb x hx
        · decide
      have hnoted : noted l c = (a ++ b ++ [' ']) ++ ("//".toList ++ ' ' :: c) := by
        rw [noted, heq, hnil]
        simp
      rw [hnoted, trim_append hblank (by decide) (by decide) (by decide)]
      exact List.prefix_append _ _
    · obtain ⟨u, -, -, htrim⟩ := exists_trim_noted hnil c
      have hstart : "//".toList <+: trim l := by
        by_contra hnot
        rw [isContent_iff.mpr ⟨hnil, hnot⟩] at hl
        exact absurd hl (by decide)
      rw [htrim]
      exact hstart.trans (List.prefix_append _ _)
  exact Bool.eq_false_iff.mpr fun hcontent => (isContent_iff.mp hcontent).2 hslash

/-- A note on a line changes no body, unless the line opens a group, or the note holds a backtick
and the line declares fields without a raw string. Only a raw string that the line leaves open needs
a look at both lines. -/
theorem interchangeable_noted_iff {l c : Text} (hl : '\n' ∉ l) (hc : '\n' ∉ c) :
    Interchangeable l (noted l c) ↔
      (isContent (trim l) → opener? (trim l) = none
        ∧ (backtick ∈ c → (backtick ∉ trim l → FieldLine.fields (trim l) = [])
          ∧ ((trim l).count backtick % 2 = 1 → Alike (trim l) (trim (noted l c))))) := by
  have hnoted : '\n' ∉ noted l c := by simp [noted, hl, hc]
  cases hs : isContent (trim l) with
  | false =>
    refine iff_of_true (fun xs ys hall => ?_) (fun h => absurd h (by decide))
    rw [fields_join hl hall, fields_join hnoted hall, contents_singleton_of_not hs,
      contents_singleton_of_not (isContent_noted_eq_false hs c)]
  | true =>
    have hne : trim l ≠ [] := by
      intro hnil
      rw [hnil] at hs
      exact absurd hs (by decide)
    obtain ⟨u, hu, hback, htrim⟩ := exists_trim_noted hne c
    rw [interchangeable_iff hl hnoted hs (htrim ▸ isContent_append hu hs), htrim, ← hback]
    constructor
    · intro h _
      have hopen : opener? (trim l) = none := h.opener.trans (opener?_append hu _)
      refine ⟨hopen, fun hm => ⟨fun hnot => ?_, fun _ => h⟩⟩
      rw [h.fields hopen, FieldLine.fields_append_of_not_mem hu hnot hm]
    · intro h
      obtain ⟨hopen, hm⟩ := h rfl
      by_cases hin : backtick ∈ u
      · obtain ⟨hfields, hodd⟩ := hm hin
        rcases Nat.mod_two_eq_zero_or_one ((trim l).count backtick) with heven | hone
        · exact alike_append hu (.inr heven) hne hopen fun hnot _ => hfields hnot
        · exact hodd hone
      · exact alike_append hu (.inl hin) hne hopen fun _ hmem => absurd hmem hin

theorem interchangeable_noted_iff_kinds :
    Interchangeable "A int `gorm:\"size:1\"`".toList
      (noted "A int `gorm:\"size:1\"`".toList "`".toList)
      ∧ Interchangeable "\x7d".toList (noted "\x7d".toList "` \x7b".toList)
      ∧ ¬ Interchangeable "A int".toList (noted "A int".toList "`".toList)
      ∧ ¬ Interchangeable "N struct \x7b".toList (noted "N struct \x7b".toList "home".toList) := by
  refine ⟨(interchangeable_noted_iff (by decide) (by decide)).mpr fun _ =>
    ⟨by decide, fun _ => ⟨?_, ?_⟩⟩, (interchangeable_noted_iff (by decide) (by decide)).mpr fun _ =>
      ⟨by decide, fun _ => ⟨?_, ?_⟩⟩, ?_, ?_⟩
  · exact fun hnot => absurd (by decide) hnot
  · exact fun hodd => absurd hodd (by decide)
  · exact fun _ => by decide +kernel
  · exact fun hodd => absurd hodd (by decide)
  · intro h
    obtain ⟨-, hnote⟩ := (interchangeable_noted_iff (by decide) (by decide)).mp h (by decide)
    exact absurd ((hnote (by decide)).1 (by decide)) (by decide +kernel)
  · intro h
    obtain ⟨hopener, -⟩ := (interchangeable_noted_iff (by decide) (by decide)).mp h (by decide)
    exact absurd hopener (by decide)

/-- The group of a noted opener is read as lines of the struct, and its field is lost. -/
theorem fields_notedOpener :
    let opener := "N struct \x7b".toList
    let rest := [" X int".toList, "\x7d `gorm:\"size:x\"`".toList]
    fields (join "\n".toList (opener :: rest))
        = [⟨"X".toList, "int".toList, []⟩, ⟨"N".toList, "struct".toList, "gorm:\"size:x\"".toList⟩]
      ∧ fields (join "\n".toList (noted opener "home".toList :: rest))
        = [⟨"X".toList, "int".toList, []⟩] := by
  decide +kernel

end Body
end TagLint
