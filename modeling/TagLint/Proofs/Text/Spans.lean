import TagLint.Text.Quoted

/-! What the scanners of a text stop at. -/
namespace TagLint.Text

/-- The characters of a text are tried one by one, not all that there are. -/
instance (priority := 2000) decidableForallMem (t : Text) (P : Char → Prop) [DecidablePred P] :
    Decidable (∀ c ∈ t, P c) :=
  List.decidableBAll P t

instance (priority := 2000) decidableForallMemOption (o : Option Char) (P : Char → Prop)
    [DecidablePred P] : Decidable (∀ c ∈ o, P c) :=
  Option.decidableForallMem o

variable {α : Type} {p : α → Bool} {a b : List α} {s t r : Text} {c : Char}

theorem takeWhile_append_of_stop (ha : ∀ x ∈ a, p x) (hb : ∀ x ∈ b.head?, p x = false) :
    (a ++ b).takeWhile p = a := by
  rw [List.takeWhile_append_of_pos ha]
  cases b with
  | nil => simp
  | cons x b => simp [hb x rfl]

theorem dropWhile_append_of_stop (ha : ∀ x ∈ a, p x) (hb : ∀ x ∈ b.head?, p x = false) :
    (a ++ b).dropWhile p = b := by
  rw [List.dropWhile_append_of_pos ha]
  cases b with
  | nil => rfl
  | cons x b => simp [hb x rfl]

theorem head?_dropWhile_eq_false (p : α → Bool) (a : List α) :
    ∀ x ∈ (a.dropWhile p).head?, p x = false := by
  intro x hx
  have := List.head?_dropWhile_not p a
  rw [Option.mem_def.mp hx] at this
  simpa using this

theorem findIdx?_eq_none_of_not_mem (ht : c ∉ t) : t.findIdx? (· == c) = none := by
  rw [List.findIdx?_eq_none_iff]
  intro d hd
  exact beq_eq_false_iff_ne.mpr (ne_of_mem_of_not_mem hd ht)

theorem findIdx?_append_cons (ht : c ∉ t) (r : Text) :
    (t ++ c :: r).findIdx? (· == c) = some t.length := by
  simp [List.findIdx?_append, List.findIdx?_cons, findIdx?_eq_none_of_not_mem ht]

/-! ## Blanks -/

theorem trimLeft_append_of_blank (hs : ∀ c ∈ s, isBlank c) (t : Text) :
    trimLeft (s ++ t) = trimLeft t :=
  List.dropWhile_append_of_pos hs

theorem trimLeft_eq_nil (hs : ∀ c ∈ s, isBlank c) : trimLeft s = [] := by
  have h := trimLeft_append_of_blank hs []
  rwa [List.append_nil] at h

theorem trimLeft_of_head? (ht : ∀ c ∈ t.head?, isBlank c = false) : trimLeft t = t :=
  dropWhile_append_of_stop (a := []) (by simp) ht

theorem trimLeft_cons (hc : isBlank c = false) (t : Text) : trimLeft (c :: t) = c :: t :=
  trimLeft_of_head? (by simpa using hc)

theorem exists_eq_append_trimLeft (t : Text) :
    ∃ s, (∀ c ∈ s, isBlank c) ∧ t = s ++ trimLeft t :=
  ⟨t.takeWhile isBlank, fun _ hc => List.all_eq_true.mp List.all_takeWhile _ hc,
    List.takeWhile_append_dropWhile.symm⟩

theorem afterBlanks?_eq_some_iff :
    afterBlanks? t = some r ↔
      ∃ s, s ≠ [] ∧ (∀ c ∈ s, isBlank c) ∧ (∀ c ∈ r.head?, isBlank c = false) ∧ t = s ++ r := by
  constructor
  · intro h
    simp only [afterBlanks?, Option.ite_none_right_eq_some, Option.some.injEq] at h
    obtain ⟨hlt, rfl⟩ := h
    obtain ⟨s, hs, ht⟩ := exists_eq_append_trimLeft t
    refine ⟨s, ?_, hs, head?_dropWhile_eq_false isBlank t, ht⟩
    rintro rfl
    rw [List.nil_append] at ht
    exact absurd (congrArg List.length ht) (by omega)
  · rintro ⟨s, hne, hs, hr, rfl⟩
    have hpos := List.length_pos_iff.mpr hne
    rw [afterBlanks?, trimLeft_append_of_blank hs, trimLeft_of_head? hr, if_pos]
    simpa using hpos

theorem afterBlanks?_append (hne : s ≠ []) (hs : ∀ c ∈ s, isBlank c)
    (hr : ∀ c ∈ r.head?, isBlank c = false) : afterBlanks? (s ++ r) = some r :=
  afterBlanks?_eq_some_iff.mpr ⟨s, hne, hs, hr, rfl⟩

theorem afterBlanks?_eq_none (ht : ∀ c ∈ t.head?, isBlank c = false) : afterBlanks? t = none := by
  rw [afterBlanks?, trimLeft_of_head? ht, if_neg (Nat.lt_irrefl _)]

theorem trimRight_append (hs : ∀ c ∈ s.getLast?, isBlank c = false) (t : Text) :
    trimRight (s ++ t) = s ++ trimRight t := by
  have hrev : s.reverse.dropWhile isBlank = s.reverse :=
    dropWhile_append_of_stop (a := []) (by simp) (by simpa using hs)
  rw [trimRight, List.reverse_append, List.dropWhile_append, trimRight]
  split
  · rename_i hempty
    rw [hrev, List.isEmpty_iff.mp hempty]
    simp
  · simp

theorem trimRight_eq_nil (hs : ∀ c ∈ s, isBlank c) : trimRight s = [] := by
  have hdrop : s.reverse.dropWhile isBlank = [] :=
    trimLeft_eq_nil fun c hc => hs c (List.mem_reverse.mp hc)
  rw [trimRight, hdrop]
  rfl

theorem mem_of_mem_trimRight (hc : c ∈ trimRight s) : c ∈ s :=
  List.mem_reverse.mp ((List.dropWhile_sublist isBlank).mem (List.mem_reverse.mp hc))

/-- Trimming a line takes its indent, and nothing of what stands before its last part. -/
theorem trim_append (hr : ∀ c ∈ r, isBlank c) (hne : s ≠ [])
    (hhead : ∀ c ∈ s.head?, isBlank c = false) (hlast : ∀ c ∈ s.getLast?, isBlank c = false)
    (t : Text) : trim (r ++ (s ++ t)) = s ++ trimRight t := by
  have hhead' : ∀ c ∈ (s ++ t).head?, isBlank c = false := by
    cases s with
    | nil => exact absurd rfl hne
    | cons c s => simpa using hhead
  rw [trim, trimLeft_append_of_blank hr, trimLeft_of_head? hhead', trimRight_append hlast]

theorem isWord_eq_false_of_isBlank (h : isBlank c) : isWord c = false := by
  cases hw : isWord c with
  | false => rfl
  | true =>
    have := isBlank_eq_false_of_isWord hw
    simp_all

theorem not_mem_of_class {q : Char → Bool} {d : Char} (ht : ∀ c ∈ t, q c) (hd : q d = false) :
    d ∉ t := by
  intro hm
  have := ht d hm
  simp_all

theorem head?_append_of_ne_nil {P : Char → Prop} (hne : s ≠ []) (hs : ∀ c ∈ s, P c) (t : Text) :
    ∀ c ∈ (s ++ t).head?, P c := by
  cases s with
  | nil => exact absurd rfl hne
  | cons c s => simpa using hs c List.mem_cons_self

theorem after?_eq_some_iff : after? s t = some r ↔ t = s ++ r := by
  simp only [after?, Option.ite_none_right_eq_some, Option.some.injEq, List.isPrefixOf_iff_prefix]
  constructor
  · rintro ⟨⟨u, rfl⟩, rfl⟩
    simp
  · rintro rfl
    simp

/-! ## Search -/

theorem find?_cons_of_not_start (h : ¬ s <+: c :: t) :
    find? s (c :: t) = (find? s t).map (· + 1) := by
  rw [find?, if_neg (by simpa using h)]

theorem find?_comment_of_not_mem (ht : '/' ∉ t) : find? "//" t = none := by
  induction t with
  | nil => rfl
  | cons c t ih =>
    obtain ⟨hc, ht⟩ := List.ne_and_not_mem_of_not_mem_cons ht
    have hp : ¬ "//".toList <+: c :: t := fun ⟨r, hr⟩ => hc (List.cons.inj hr).1
    rw [find?_cons_of_not_start hp, ih ht]
    rfl

theorem find?_comment_append (ht : '/' ∉ t) (r : Text) :
    find? "//" (t ++ '/' :: '/' :: r) = some t.length := by
  induction t with
  | nil => simp [find?]
  | cons c t ih =>
    obtain ⟨hc, ht⟩ := List.ne_and_not_mem_of_not_mem_cons ht
    have hp : ¬ "//".toList <+: c :: (t ++ '/' :: '/' :: r) :=
      fun ⟨r, hr⟩ => hc (List.cons.inj hr).1
    rw [List.cons_append, find?_cons_of_not_start hp, ih ht]
    rfl

theorem before_comment_of_not_mem (ht : '/' ∉ t) : before "//" t = t := by
  rw [before, find?_comment_of_not_mem ht]

theorem before_comment_append (ht : '/' ∉ t) (r : Text) :
    before "//" (t ++ '/' :: '/' :: r) = t := by
  rw [before, find?_comment_append ht]
  simp

@[simp] theorem after?_append (s t : Text) : after? s (s ++ t) = some t :=
  after?_eq_some_iff.mpr rfl

theorem not_mem_ofNat (hdigit : c.isDigit = false) (n : Nat) : c ∉ ofNat n := by
  intro hc
  have hmem := Nat.isDigit_of_mem_toDigits (by decide) (by decide) hc
  exact absurd (hdigit.symm.trans hmem) (by decide)

/-! ## Lines -/

theorem join_cons_cons (sep s t : Text) (ts : List Text) :
    join sep (s :: t :: ts) = s ++ (sep ++ join sep (t :: ts)) :=
  List.append_assoc s sep _

theorem not_mem_join {sep : Text} {ts : List Text} (hsep : c ∉ sep) (hts : ∀ t ∈ ts, c ∉ t) :
    c ∉ join sep ts := by
  induction ts with
  | nil => simp [join]
  | cons t ts ih =>
    obtain ⟨ht, hts⟩ := List.forall_mem_cons.mp hts
    cases ts with
    | nil => exact ht
    | cons t' ts =>
      rw [join_cons_cons]
      simp [ht, hsep, ih hts]

theorem split_of_not_mem (ht : c ∉ t) : split c t = [t] := by
  induction t with
  | nil => rfl
  | cons d t ih =>
    obtain ⟨hc, ht⟩ := List.ne_and_not_mem_of_not_mem_cons ht
    rw [split, if_neg (Ne.symm hc), ih ht]

theorem split_append (ht : c ∉ t) (r : Text) : split c (t ++ c :: r) = t :: split c r := by
  induction t with
  | nil => rw [List.nil_append, split, if_pos rfl]
  | cons d t ih =>
    obtain ⟨hc, ht⟩ := List.ne_and_not_mem_of_not_mem_cons ht
    rw [List.cons_append, split, if_neg (Ne.symm hc), ih ht]

/-- Splitting takes apart what was joined. -/
theorem split_join {parts : List Text} (hne : parts ≠ []) (h : ∀ s ∈ parts, c ∉ s) :
    split c (join [c] parts) = parts := by
  induction parts with
  | nil => exact absurd rfl hne
  | cons s parts ih =>
    obtain ⟨hs, hparts⟩ := List.forall_mem_cons.mp h
    cases parts with
    | nil => exact split_of_not_mem hs
    | cons t parts =>
      rw [join_cons_cons, List.singleton_append, split_append hs, ih (by simp) hparts]

theorem not_mem_of_mem_split (hs : s ∈ split c t) : c ∉ s := by
  induction t generalizing s with
  | nil =>
    obtain rfl : s = [] := by simpa [split] using hs
    exact List.not_mem_nil
  | cons d t ih =>
    rw [split] at hs
    split at hs
    · rcases List.mem_cons.mp hs with rfl | hs
      · exact List.not_mem_nil
      · exact ih hs
    · rename_i hd
      split at hs
      · obtain rfl : s = [d] := by simpa using hs
        simpa using Ne.symm hd
      · rename_i piece pieces hsplit
        rcases List.mem_cons.mp hs with rfl | hs
        · have hpiece : c ∉ piece := ih (by rw [hsplit]; exact List.mem_cons_self)
          simp [Ne.symm hd, hpiece]
        · exact ih (by rw [hsplit]; exact List.mem_cons_of_mem _ hs)

end TagLint.Text
