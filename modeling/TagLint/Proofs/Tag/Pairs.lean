import TagLint.Proofs.Tag.Marks

/-! Literals made of pairs of a name and a quoted value: which value is read as the gorm segment. -/
namespace TagLint.Segment
open Text

variable {name r t v : Text} {previous : Option Char} {c : Char} {rests : List Text}

/-! ## Pairs -/

structure Pair where
  name : Text
  value : Text
  name_ne_nil : name ≠ [] := by decide
  isNameChar : ∀ c ∈ name, isNameChar c := by decide
  quoted : Quoted '"' value := by exact quoted_of_plain (by decide)

def namespaceName : Text := "gorm"

def Pair.text (p : Pair) : Text := p.name ++ ':' :: '"' :: (p.value ++ ['"'])

/-- Pairs with a space between them. -/
def printed (ps : List Pair) : Text := join [' '] (ps.map Pair.text)

/-- The value of the first pair that is named by the namespace. -/
def namedValue (ps : List Pair) : Text :=
  ((ps.find? fun p => p.name = namespaceName).map Pair.value).getD []

/-- The value ends in a mark that starts a name. -/
def Pair.Spills (p : Pair) : Prop :=
  ∃ a, p.value = a ++ mark ∧ ∀ c ∈ a.getLast?, Segment.isNameChar c = false

/-- What stands behind a pair. -/
def following : List Pair → Text
  | [] => []
  | q :: ps => ' ' :: printed (q :: ps)

variable {p q : Pair} {ps front back : List Pair}

theorem printed_cons (p : Pair) (ps : List Pair) :
    printed (p :: ps) = p.name ++ ':' :: '"' :: (p.value ++ '"' :: following ps) := by
  cases ps with
  | nil => simp [printed, join, following, Pair.text]
  | cons q ps =>
    rw [printed, List.map_cons, List.map_cons, join_cons_cons, Pair.text, following, printed,
      List.map_cons]
    simp

/-! ## Marks of a literal -/

theorem after?_append_cons (hc : c ∉ mark) (s t : Text) :
    after? mark (s ++ c :: t) = (after? mark s).map (· ++ c :: t) := by
  have hiff := prefix_append_cons_iff (s := s) (t := t) hc
  rw [after?, after?]
  by_cases h : mark <+: s
  · have hlen := h.length_le
    rw [if_pos (List.isPrefixOf_iff_prefix.mpr (hiff.mpr h)),
      if_pos (List.isPrefixOf_iff_prefix.mpr h), List.drop_append_of_le_length hlen]
    rfl
  · rw [if_neg (by rwa [List.isPrefixOf_iff_prefix, hiff]),
      if_neg (by rwa [List.isPrefixOf_iff_prefix])]
    rfl

/-- A mark does not go across a character that it does not hold. -/
theorem behind_append_cons (hc : c ∉ mark) (previous : Option Char) (s t : Text) :
    behind previous (s ++ c :: t) = (behind previous s).map (· ++ c :: t) ++ behind (some c) t := by
  induction s generalizing previous with
  | nil =>
    have hnone : after? mark (c :: t) = none := after?_append_cons hc [] t
    rw [List.nil_append]
    simp [behind, hnone]
  | cons d s ih =>
    have hafter := after?_append_cons hc (d :: s) t
    rw [List.cons_append] at hafter ⊢
    rw [behind, hafter, ih, behind, List.map_append, List.append_assoc]
    congr 1
    split
    · cases after? mark (d :: s) <;> rfl
    · rfl

/-- Inside of a name no other name starts. -/
theorem behind_tail (hp : startsName previous = false) (hname : ∀ c ∈ name, isNameChar c) :
    behind previous (name ++ [':']) = [] := by
  induction name generalizing previous with
  | nil => simp [behind, hp]
  | cons c name ih =>
    obtain ⟨hc, hname⟩ := List.forall_mem_cons.mp hname
    have hstart : startsName (some c) = false := by simp [startsName, hc]
    rw [List.cons_append, behind, hp, ih hstart hname]
    rfl

theorem behind_name (hp : startsName previous) (p : Pair) :
    behind previous (p.name ++ [':']) = if p.name = namespaceName then [[]] else [] := by
  obtain ⟨c, name, hname⟩ := List.exists_cons_of_ne_nil p.name_ne_nil
  have hchars := p.isNameChar
  have hafter : (after? mark (p.name ++ [':'])).toList = if p.name = namespaceName then [[]]
      else [] := by
    by_cases hgorm : p.name = namespaceName
    · rw [hgorm]
      rfl
    · have hnone : after? mark (p.name ++ [':']) = none := by
        have hcolon : ':' ∉ namespaceName := by decide
        have hcolon' : ':' ∉ p.name := not_mem_of_class p.isNameChar (by decide)
        cases hr : after? mark (p.name ++ [':']) with
        | none => rfl
        | some r =>
          -- The first colon of both texts stands behind the name.
          have heq : p.name ++ ':' :: [] = namespaceName ++ ':' :: r :=
            (after?_eq_some_iff (s := mark)).mp hr
          have hlen := congrArg (List.findIdx? (· == ':')) heq
          rw [findIdx?_append_cons hcolon', findIdx?_append_cons hcolon] at hlen
          exact absurd (List.append_inj_left heq (Option.some.inj hlen)) hgorm
      rw [hnone, if_neg hgorm]
      rfl
  rw [hname] at hchars hafter ⊢
  obtain ⟨hc, hchars⟩ := List.forall_mem_cons.mp hchars
  have hstart : startsName (some c) = false := by simp [startsName, hc]
  rw [← hafter, List.cons_append, behind, if_pos hp, behind_tail hstart hchars, List.append_nil]

/-- Marks of a literal: that of the namespace, and those inside of values. -/
theorem behind_printed_cons (hp : startsName previous) (p : Pair) (ps : List Pair) :
    behind previous (printed (p :: ps))
      = (if p.name = namespaceName then ['"' :: (p.value ++ '"' :: following ps)] else [])
        ++ ((behind (some '"') p.value).map (· ++ '"' :: following ps)
          ++ behind (some '"') (following ps)) := by
  have hquote : '"' ∉ mark := by decide
  have hcolon : p.name ++ ':' :: '"' :: (p.value ++ '"' :: following ps)
      = (p.name ++ [':']) ++ '"' :: (p.value ++ '"' :: following ps) := by simp
  rw [printed_cons, hcolon, behind_append_cons hquote, behind_append_cons hquote, behind_name hp]
  congr 1
  split <;> rfl

theorem behind_following (ps : List Pair) :
    behind (some '"') (following ps) = behind none (printed ps) := by
  cases ps with
  | nil => rfl
  | cons q ps =>
    have hspace : startsName (some ' ') := by decide
    have hnone : behind (some '"') (' ' :: printed (q :: ps))
        = behind (some ' ') (printed (q :: ps)) :=
      behind_append_cons (by decide) (some '"') [] (printed (q :: ps))
    rw [following, hnone, behind_printed_cons hspace, behind_printed_cons rfl]

/-! ## Double quotes -/

theorem spills_iff (p : Pair) : [] ∈ behind (some '"') p.value ↔ p.Spills := by
  rw [mem_behind_iff, Pair.Spills]
  refine exists_congr fun a => ?_
  rw [List.append_nil, startsName_iff]
  cases a.getLast? with
  | none => simp [isNameChar, isWord]
  | some c => rfl

instance (p : Pair) : Decidable p.Spills := decidable_of_iff _ (spills_iff p)

/-- What is read up to the quote of the next value. -/
def spilled (q : Pair) : Text := ' ' :: (q.name ++ [':'])

/-- What the search for double quotes finds: the value of the namespace, or what stands between a
value that spills and the next one. -/
def doubled : List Pair → Option Text
  | [] => none
  | p :: ps =>
    if p.name = namespaceName then some p.value
    else (if p.Spills then ps.head?.map spilled else none) <|> doubled ps

theorem untilQuote?_following (ps : List Pair) :
    untilQuote? '"' (following ps) = ps.head?.map spilled := by
  cases ps with
  | nil => rfl
  | cons q ps =>
    have hplain : ∀ c ∈ spilled q, c ≠ '"' ∧ c ≠ '\\' := by
      intro c hc
      rcases List.mem_cons.mp hc with rfl | hc
      · decide
      · rcases List.mem_append.mp hc with hc | hc
        · have hname := q.isNameChar c hc
          constructor <;>
          · rintro rfl
            exact absurd hname (by decide)
        · obtain rfl := List.mem_singleton.mp hc
          decide
    have hquoted := quoted_of_plain hplain
    have hsplit : following (q :: ps) = spilled q ++ '"' :: (q.value ++ '"' :: following ps) := by
      rw [following, printed_cons, spilled]
      simp
    rw [hsplit, untilQuote?_append (by decide) hquoted]
    rfl

/-- Behind a mark inside of a value stands no quote, unless the value ends there. -/
theorem read?_double_inside (hr : r ∈ behind (some '"') p.value) (t : Text) :
    Convention.double.read? (r ++ '"' :: t) = if r = [] then untilQuote? '"' t else none := by
  cases r with
  | nil => rfl
  | cons c r =>
    obtain ⟨a, ha, -⟩ := mem_behind_iff.mp hr
    have hc : c ≠ '"' := by
      rintro rfl
      have hquoted := p.quoted
      rw [ha, ← List.append_assoc] at hquoted
      have hlast := hquoted.getLast?_eq (by decide)
      rw [List.getLast?_append] at hlast
      exact absurd hlast (by simp [mark])
    rw [if_neg (by simp)]
    refine Option.eq_none_iff_forall_ne_some.mpr fun s hs => ?_
    obtain ⟨-, u, hu⟩ := Convention.read?_double_iff.mp hs
    exact hc (List.cons.inj hu).1

theorem findSome?_of_nil {f : Text → Option Text} {o : Option Text}
    (h : ∀ r ∈ rests, f r = if r = [] then o else none) :
    rests.findSome? f = if [] ∈ rests then o else none := by
  induction rests with
  | nil => rfl
  | cons r rests ih =>
    obtain ⟨hr, hrests⟩ := List.forall_mem_cons.mp h
    rw [List.findSome?_cons, hr, ih hrests]
    by_cases hnil : r = []
    · subst hnil
      cases o <;> simp
    · simp [hnil, Ne.symm hnil]

theorem findSome?_double (ps : List Pair) :
    (behind none (printed ps)).findSome? Convention.double.read? = doubled ps := by
  induction ps with
  | nil => rfl
  | cons p ps ih =>
    have hinside : ((behind (some '"') p.value).map (· ++ '"' :: following ps)).findSome?
        Convention.double.read? = if p.Spills then ps.head?.map spilled else none := by
      rw [List.findSome?_map, ← untilQuote?_following, Function.comp_def,
        findSome?_of_nil fun r hr => read?_double_inside hr (following ps)]
      simp only [spills_iff]
    rw [behind_printed_cons rfl, List.findSome?_append, List.findSome?_append, hinside,
      behind_following, ih, doubled]
    by_cases hname : p.name = namespaceName
    · have hvalue : Convention.double.read? ('"' :: (p.value ++ '"' :: following ps))
          = some p.value :=
        Convention.read?_double_iff.mpr ⟨p.quoted, _, rfl⟩
      simp [hname, hvalue]
    · simp [hname]

/-- Neither the name nor the value of a pair is read as gorm. -/
def Pair.Plain (p : Pair) : Prop := p.name ≠ namespaceName ∧ ¬ p.Spills

theorem doubled_append (hfront : ∀ p ∈ front, p.Plain) (ps : List Pair) :
    doubled (front ++ ps) = doubled ps := by
  induction front with
  | nil => rfl
  | cons p front ih =>
    obtain ⟨⟨hname, hspills⟩, hfront⟩ := List.forall_mem_cons.mp hfront
    rw [List.cons_append, doubled, if_neg hname, if_neg hspills, ih hfront]
    rfl

theorem doubled_of_named (hp : p.name = namespaceName) (ps : List Pair) :
    doubled (p :: ps) = some p.value := by
  rw [doubled, if_pos hp]

theorem doubled_of_spills (hp : p.name ≠ namespaceName) (hspills : p.Spills) (q : Pair)
    (ps : List Pair) :
    doubled (p :: q :: ps) = some (spilled q) := by
  rw [doubled, if_neg hp, if_pos hspills]
  rfl

/-- The search for double quotes ends at the namespace, at a value that spills before it, or
nowhere. -/
theorem doubled_cases (ps : List Pair) :
    (∃ front g back, ps = front ++ g :: back ∧ (∀ p ∈ front, p.Plain) ∧ g.name = namespaceName)
      ∨ (∃ front p q back, ps = front ++ p :: q :: back ∧ (∀ x ∈ front, x.Plain)
        ∧ p.name ≠ namespaceName ∧ p.Spills)
      ∨ doubled ps = none ∧ ∀ p ∈ ps, p.name ≠ namespaceName := by
  induction ps with
  | nil => exact .inr (.inr ⟨rfl, by simp⟩)
  | cons p ps ih =>
    by_cases hname : p.name = namespaceName
    · exact .inl ⟨[], p, ps, rfl, by simp, hname⟩
    by_cases hspills : p.Spills
    · cases ps with
      | nil =>
        have hnone : doubled [p] = none := by
          rw [doubled, if_neg hname, if_pos hspills]
          rfl
        exact .inr (.inr ⟨hnone, by simpa using hname⟩)
      | cons q ps => exact .inr (.inl ⟨[], p, q, ps, rfl, by simp, hname, hspills⟩)
    · have hp : p.Plain := ⟨hname, hspills⟩
      rcases ih with ⟨front, g, back, rfl, hfront, hg⟩ | ⟨front, x, q, back, rfl, hfront, hx⟩ |
        ⟨hnone, hps⟩
      · exact .inl ⟨p :: front, g, back, rfl, List.forall_mem_cons.mpr ⟨hp, hfront⟩, hg⟩
      · exact .inr (.inl ⟨p :: front, x, q, back, rfl, List.forall_mem_cons.mpr ⟨hp, hfront⟩, hx⟩)
      · refine .inr (.inr ⟨?_, List.forall_mem_cons.mpr ⟨hname, hps⟩⟩)
        rw [doubled, if_neg hname, if_neg hspills, hnone]
        rfl

/-! ## The other conventions -/

/-- What stands behind the marks gives no segment in single quotes and no bare one: the first text
in single quotes is empty, or there is none, and behind every mark stands what ends a bare
segment. -/
def Silent (rests : List Text) : Prop :=
  (∃ xs r ys, rests = xs ++ r :: ys ∧ Encloses '\'' r [] ∧ ∀ x ∈ xs, ∀ s, ¬ Encloses '\'' x s)
    ∨ ∀ r ∈ rests, (∀ s, ¬ Encloses '\'' r s) ∧ ∀ c ∈ r.head?, isBareChar c = false

theorem read?_single_eq_none_iff : Convention.single.read? t = none ↔ ∀ s, ¬ Encloses '\'' t s := by
  rw [Option.eq_none_iff_forall_ne_some]
  exact forall_congr' fun s => not_congr Convention.read?_single_iff

theorem read?_bare_eq_none_iff :
    Convention.bare.read? t = none ↔ ∀ c ∈ t.head?, isBareChar c = false := by
  cases t with
  | nil => simp [Convention.read?]
  | cons c t => cases hc : isBareChar c <;> simp [Convention.read?, hc]

theorem bare_ne_nil (h : rests.findSome? Convention.bare.read? = some v) : v ≠ [] := by
  obtain ⟨-, r, -, -, hr, -⟩ := List.findSome?_eq_some_iff.mp h
  rw [Convention.read?] at hr
  split at hr
  · simp at hr
  · rename_i hne
    exact Option.some.inj hr ▸ hne

theorem silent_iff :
    Silent rests ↔ (rests.findSome? Convention.single.read?
      <|> rests.findSome? Convention.bare.read?).getD [] = [] := by
  cases hsingle : rests.findSome? Convention.single.read? with
  | some s =>
    obtain ⟨xs, r, ys, rfl, hr, hxs⟩ := List.findSome?_eq_some_iff.mp hsingle
    have hopen : ∀ x ∈ xs, ∀ s, ¬ Encloses '\'' x s :=
      fun x hx => read?_single_eq_none_iff.mp (hxs x hx)
    change _ ↔ s = []
    constructor
    · rintro (⟨xs', r', ys', heq, hr', hxs'⟩ | hall)
      · have hfirst : (xs ++ r :: ys).findSome? Convention.single.read? = some [] :=
          List.findSome?_eq_some_iff.mpr ⟨xs', r', ys', heq, Convention.read?_single_iff.mpr hr',
            fun x hx => read?_single_eq_none_iff.mpr (hxs' x hx)⟩
        exact Option.some.inj (hsingle.symm.trans hfirst)
      · exact absurd (Convention.read?_single_iff.mp hr) ((hall r (by simp)).1 s)
    · rintro rfl
      exact .inl ⟨xs, r, ys, rfl, Convention.read?_single_iff.mp hr, hopen⟩
  | none =>
    have hopen : ∀ r ∈ rests, ∀ s, ¬ Encloses '\'' r s := fun r hr =>
      read?_single_eq_none_iff.mp (List.findSome?_eq_none_iff.mp hsingle r hr)
    change _ ↔ (rests.findSome? Convention.bare.read?).getD [] = []
    constructor
    · rintro (⟨xs, r, ys, rfl, hr, -⟩ | hall)
      · exact absurd hr (hopen r (by simp) [])
      · have hbare : rests.findSome? Convention.bare.read? = none :=
          List.findSome?_eq_none_iff.mpr fun r hr => read?_bare_eq_none_iff.mpr (hall r hr).2
        rw [hbare]
        rfl
    · intro hnil
      cases hbare : rests.findSome? Convention.bare.read? with
      | some v =>
        rw [hbare] at hnil
        exact absurd hnil (bare_ne_nil hbare)
      | none =>
        exact .inr fun r hr => ⟨hopen r hr,
          read?_bare_eq_none_iff.mp (List.findSome?_eq_none_iff.mp hbare r hr)⟩

/-! ## The value that is read -/

theorem namedValue_of_named (hfront : ∀ x ∈ front, x.name ≠ namespaceName)
    (hp : p.name = namespaceName)
    (back : List Pair) : namedValue (front ++ p :: back) = p.value := by
  have hnone : front.find? (fun x => x.name = namespaceName) = none := by
    simpa [List.find?_eq_none] using hfront
  rw [namedValue, List.find?_append, hnone, List.find?_cons]
  simp [hp]

theorem namedValue_of_unnamed (h : ∀ p ∈ ps, p.name ≠ namespaceName) : namedValue ps = [] := by
  have hnone : ps.find? (fun x => x.name = namespaceName) = none := by
    simpa [List.find?_eq_none] using h
  rw [namedValue, hnone]
  rfl

/-- No other value is read in place of the one that the namespace names. A value before it may spill
only where the text up to the next value is the same; where nothing is named, no mark inside of a
value may give a segment. -/
structure Faithful (ps : List Pair) : Prop where
  spills : ∀ front p q back, ps = front ++ p :: q :: back → (∀ x ∈ front, x.Plain) →
    p.name ≠ namespaceName → p.Spills → namedValue ps = spilled q
  silent : (∀ p ∈ ps, p.name ≠ namespaceName) → Silent (behind none (printed ps))

theorem doubled_of_spilling (hps : ps = front ++ p :: q :: back) (hfront : ∀ x ∈ front, x.Plain)
    (hname : p.name ≠ namespaceName) (hspills : p.Spills) : doubled ps = some (spilled q) := by
  rw [hps, doubled_append hfront, doubled_of_spills hname hspills]

theorem faithful_of_doubled (h : doubled ps = some (namedValue ps))
    (hsilent : (∀ p ∈ ps, p.name ≠ namespaceName) → namedValue ps ≠ []) : Faithful ps := by
  constructor
  · intro front p q back hps hfront hname hspills
    exact Option.some.inj (h.symm.trans (doubled_of_spilling hps hfront hname hspills))
  · intro hall
    exact absurd (namedValue_of_unnamed hall) (hsilent hall)

/-- Without a segment in double quotes nothing may be read at all. -/
theorem faithful_iff_of_none (h : doubled ps = none) (hps : ∀ p ∈ ps, p.name ≠ namespaceName) :
    Faithful ps ↔ Silent (behind none (printed ps)) := by
  constructor
  · exact fun hfaithful => hfaithful.silent hps
  · intro hsilent
    refine ⟨fun front p q back heq hfront hname hspills => ?_, fun _ => hsilent⟩
    rw [doubled_of_spilling heq hfront hname hspills] at h
    exact absurd h (Option.some_ne_none _)

/-- The value of the first pair that the namespace names is read from a literal, and nothing where
there is none, if and only if no other value is read in its place. -/
theorem decode_printed_iff (ps : List Pair) :
    decode (printed ps) = namedValue ps ↔ Faithful ps := by
  rw [decode_eq, findSome?_double]
  rcases doubled_cases ps with ⟨front, g, back, hps, hfront, hg⟩ |
    ⟨front, p, q, back, hps, hfront, hname, hspills⟩
    | ⟨hnone, hps⟩
  · -- The namespace is found.
    have hnamed : namedValue ps = g.value := by
      rw [hps, namedValue_of_named (fun x hx => (hfront x hx).1) hg]
    have hfound : doubled ps = some (namedValue ps) := by
      rw [hnamed, hps, doubled_append hfront, doubled_of_named hg]
    rw [hfound]
    refine iff_of_true rfl (faithful_of_doubled hfound fun hall => ?_)
    exact absurd hg (hall g (by simp [hps]))
  · -- A value spills before it.
    have hfound := doubled_of_spilling hps hfront hname hspills
    rw [hfound]
    change spilled q = namedValue ps ↔ _
    constructor
    · intro heq
      refine faithful_of_doubled (heq ▸ hfound) fun _ => ?_
      rw [← heq]
      simp [spilled]
    · exact fun h => (h.spills front p q back hps hfront hname hspills).symm
  · -- Nothing is named, and no value spills into the next one.
    rw [faithful_iff_of_none hnone hps, namedValue_of_unnamed hps, hnone]
    exact silent_iff.symm

/-- Where no mark inside of a value starts a name, no other value is read. -/
theorem faithful_of_unmarked (h : ∀ p ∈ ps, behind (some '"') p.value = []) : Faithful ps := by
  constructor
  · rintro front p q back rfl - - hspills
    have hnil := (spills_iff p).mpr hspills
    rw [h p (by simp)] at hnil
    exact absurd hnil List.not_mem_nil
  · intro hname
    have hnone : behind none (printed ps) = [] := by
      induction ps with
      | nil => rfl
      | cons p ps ih =>
        obtain ⟨hp, h⟩ := List.forall_mem_cons.mp h
        obtain ⟨hpname, hname⟩ := List.forall_mem_cons.mp hname
        rw [behind_printed_cons rfl, if_neg hpname, hp, behind_following, ih h hname]
        rfl
    rw [hnone]
    exact .inr (by simp)

/-- A value that ends in a mark, before the value of the namespace. -/
def markedBefore : List Pair :=
  [{ name := "json".toList, value := "gorm:".toList },
    { name := "gorm".toList, value := "size:64".toList }]

theorem decode_markedBefore :
    printed markedBefore = "json:\"gorm:\" gorm:\"size:64\"".toList
      ∧ namedValue markedBefore = "size:64".toList ∧
      decode (printed markedBefore) = " gorm:".toList := by
  decide

end TagLint.Segment
