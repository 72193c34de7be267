import Mathlib.Data.List.Forall2
import Mathlib.Data.List.Sort
import TagLint.Proofs.Struct.Sites

/-! Every header position of a text is reported once, unless it lies in the body of a closed struct
that is reported itself. -/
namespace TagLint
open Text

variable {t a b s x header header' name name' : Text} {p q i j body body' n : Nat} {c : Char}

/-! ## Headers do not overlap -/

/-- A text is cut in one way before the characters of a class that end it. -/
theorem append_inj_of_last {P : Char → Bool} {a' b' : Text} (h : a ++ b = a' ++ b')
    (hb : ∀ c ∈ b, P c) (hb' : ∀ c ∈ b', P c) (ha : ∀ c ∈ a.getLast?, P c = false)
    (ha' : ∀ c ∈ a'.getLast?, P c = false) : a = a' ∧ b = b' := by
  -- What one side has in excess ends in a character of both classes.
  have hnil : ∀ {u v : Text}, (∀ c ∈ (u ++ v).getLast?, P c = false) → (∀ c ∈ v, P c) → v = [] := by
    intro u v hlast hv
    by_contra hne
    have hmem := List.getLast_mem hne
    have := hlast (v.getLast hne)
      (by simp [List.getLast?_append, List.getLast?_eq_some_getLast hne])
    simp_all
  rcases List.append_eq_append_iff.mp h with ⟨d, rfl, rfl⟩ | ⟨d, rfl, rfl⟩
  · have hd := hnil ha' fun c hc => hb c (List.mem_append_left _ hc)
    simp [hd]
  · have hd := hnil ha fun c hc => hb' c (List.mem_append_left _ hc)
    simp [hd]

/-- No header ends in another one. -/
theorem Header.Spelled.eq_nil_of_suffix (h : Spelled name header) (h' : Spelled name' header')
    (heq : header = x ++ header') : x = [] := by
  obtain ⟨hname, hword, hne₁, hne₂, h₁, h₂, h₃⟩ := h
  rename_i b₁ b₂ b₃
  obtain ⟨hname', hword', hne₁', hne₂', h₁', h₂', h₃'⟩ := h'
  rename_i b₁' b₂' b₃'
  have hblank : ∀ {w : Text}, w ≠ [] → (∀ c ∈ w, isWord c) → ∀ u : Text,
      ∀ c ∈ (u ++ w).getLast?, isBlank c = false := by
    intro w hne hw u c hc
    rw [List.getLast?_append, Option.or_of_isSome (by simpa using hne)] at hc
    exact isBlank_eq_false_of_isWord (hw c (List.mem_of_getLast? hc))
  have hbound : ∀ {w : Text}, w ≠ [] → (∀ c ∈ w, isBlank c) → ∀ u : Text,
      ∀ c ∈ (u ++ w).getLast?, isWord c = false := by
    intro w hne hw u c hc
    rw [List.getLast?_append, Option.or_of_isSome (by simpa using hne)] at hc
    exact isWord_eq_false_of_isBlank (hw c (List.mem_of_getLast? hc))
  have hkeyword : ∀ c ∈ "struct".toList, isWord c := by decide
  have htype : ∀ c ∈ "type".toList, isWord c := by decide
  -- The pieces are compared from the brace back to the first keyword.
  have hbrace : ("type".toList ++ b₁ ++ name ++ b₂ ++ "struct".toList) ++ b₃
      = (x ++ "type".toList ++ b₁' ++ name' ++ b₂' ++ "struct".toList) ++ b₃' := by
    rw [← List.append_left_inj ['{']]
    simpa using heq
  obtain ⟨hstruct, -⟩ := append_inj_of_last hbrace h₃ h₃' (hblank (by decide) hkeyword _)
    (hblank (by decide) hkeyword _)
  obtain ⟨hnames, -⟩ := append_inj_of_last (List.append_cancel_right hstruct) h₂ h₂'
    (hblank hname hword _) (hblank hname' hword' _)
  obtain ⟨hblanks, -⟩ :=
    append_inj_of_last hnames hword hword' (hbound hne₁ h₁ _) (hbound hne₁' h₁' _)
  obtain ⟨hfirst, -⟩ := append_inj_of_last hblanks h₁ h₁' (hblank (by decide) htype [])
    (hblank (by decide) htype _)
  simpa using hfirst

/-- A header for `name` starts at `p`; its brace is the last character before `body`. -/
def HeaderAt (t : Text) (p : Nat) (name : Text) (body : Nat) : Prop :=
  ∃ a header rest, t = a ++ (header ++ rest) ∧ a.length = p ∧ Header.boundary a.getLast?
    ∧ Header.Spelled name header ∧ body = p + header.length

theorem HeaderAt.lt (h : HeaderAt t p name body) : p < body := by
  obtain ⟨a, header, rest, rfl, rfl, -, hspelled, rfl⟩ := h
  have := List.length_pos_iff.mpr hspelled.ne_nil
  omega

theorem HeaderAt.getElem? (h : HeaderAt t p name body) : t[p]? = some 't' := by
  obtain ⟨a, header, rest, rfl, rfl, -, hspelled, -⟩ := h
  cases hspelled
  simp

theorem HeaderAt.here? (h : HeaderAt t p name body) :
    Header.here? (t.take p).getLast? (t.drop p) = some (name, t.drop body) ∧ body ≤ t.length := by
  obtain ⟨a, header, rest, rfl, rfl, hp, hspelled, rfl⟩ := h
  rw [List.take_left, List.drop_left, ← List.drop_drop, List.drop_left, List.drop_left,
    Header.here?_of_spelled hp hspelled]
  simp

theorem HeaderAt.unique (h : HeaderAt t p name body) (h' : HeaderAt t p name' body') :
    name = name' ∧ body = body' := by
  obtain ⟨hhere, hle⟩ := h.here?
  obtain ⟨hhere', hle'⟩ := h'.here?
  obtain ⟨rfl, hdrop⟩ : name = name' ∧ t.drop body = t.drop body' := by simpa [hhere] using hhere'
  have := congrArg List.length hdrop
  simp only [List.length_drop] at this
  exact ⟨rfl, by omega⟩

/-- A spelled header holds one opening brace, the last character. -/
theorem Header.Spelled.exists_append (h : Spelled name header) :
    ∃ s, header = s ++ ['{'] ∧ '{' ∉ s := by
  obtain ⟨hname, hword, hne₁, hne₂, h₁, h₂, h₃⟩ := h
  rename_i b₁ b₂ b₃
  have hblank : ∀ {s : Text}, (∀ c ∈ s, isBlank c) → '{' ∉ s :=
    fun hs => not_mem_of_class hs (by decide)
  have hnot : '{' ∉ name := not_mem_of_class hword (by decide)
  refine ⟨"type".toList ++ (b₁ ++ (name ++ (b₂ ++ ("struct".toList ++ b₃)))), by simp, ?_⟩
  simp [hblank h₁, hblank h₂, hblank h₃, hnot]

/-- A text is cut in one way at its first opening brace. -/
theorem append_brace_inj {a' b' : Text} (ha : '{' ∉ a) (ha' : '{' ∉ a')
    (h : a ++ '{' :: b = a' ++ '{' :: b') : a = a' ∧ b = b' := by
  have hcut : ∀ {u v : Text}, '{' ∉ u → (u ++ '{' :: v).takeWhile (· != '{') = u := by
    intro u v hu
    apply takeWhile_append_of_stop
    · intro c hc
      have hne : c ≠ '{' := fun he => hu (he ▸ hc)
      simpa using hne
    · simp
  have heq : a = a' := by rw [← hcut ha (v := b), h, hcut ha']
  subst heq
  simpa using h

/-- Between the start of a header and its body no other header starts. -/
theorem HeaderAt.body_le (h : HeaderAt t q name body) (h' : HeaderAt t p name' body')
    (hlt : q < p) :
    body ≤ p := by
  obtain ⟨a, header, rest, rfl, rfl, -, hspelled, rfl⟩ := h
  obtain ⟨a', header', rest', heq, rfl, -, hspelled', -⟩ := h'
  by_contra hle
  obtain ⟨s, rfl, hs⟩ := hspelled.exists_append
  obtain ⟨s', rfl, hs'⟩ := hspelled'.exists_append
  -- The later header starts behind some `x` of the earlier one, and both end at the same brace.
  rcases List.append_eq_append_iff.mp heq with ⟨x, rfl, hx⟩ | ⟨x, rfl, -⟩
  · simp only [List.length_append, List.length_singleton] at hlt hle
    rw [List.append_assoc, List.append_assoc] at hx
    obtain ⟨z, rfl⟩ : x <+: s :=
      List.prefix_of_prefix_length_le ⟨_, hx.symm⟩ (List.prefix_append s _) (by omega)
    rw [List.append_assoc, List.append_cancel_left_eq] at hx
    have hz : '{' ∉ z := fun hm => hs (List.mem_append_right x hm)
    obtain ⟨rfl, -⟩ := append_brace_inj hz hs' hx
    have hnil := hspelled.eq_nil_of_suffix hspelled' (List.append_assoc _ _ _)
    simp [hnil] at hlt
  · rw [List.length_append] at hlt
    omega

/-! ## Reported positions -/

def IsHeader (t : Text) (p : Nat) : Prop := ∃ name body, HeaderAt t p name body

/-- The header at `q` belongs to a closed struct, and `p` lies in its body. -/
def Covers (t : Text) (q p : Nat) : Prop :=
  ∃ name body n, HeaderAt t q name body ∧ Brace.close? t body = some n ∧ body ≤ p ∧ p < n

/-- What the header at a position declares: the fields up to the closing brace, no fields when there
is no such brace. -/
inductive Declares (t : Text) (p : Nat) : StructDecl → Prop where
  | closed {name : Text} {body n : Nat} (h : HeaderAt t p name body) (hn : Brace.close? t body
    = some n) :
      Declares t p ⟨name, Body.fields ((t.take n).drop body)⟩
  | unclosed {name : Text} {body : Nat} (h : HeaderAt t p name body) (hn : Brace.close? t body
    = none) :
      Declares t p ⟨name, []⟩

/-- A header is reported unless an earlier reported one covers it. -/
structure Reported (t : Text) (ps : List Nat) : Prop where
  increasing : ps.Pairwise (· < ·)
  mem_iff : ∀ p, p ∈ ps ↔ IsHeader t p ∧ ∀ q ∈ ps, q < p → ¬ Covers t q p

/-- Which headers are reported is decided from left to right. -/
theorem Reported.unique {ps qs : List Nat} (h : Reported t ps) (h' : Reported t qs) : ps = qs := by
  have hmem : ∀ p, p ∈ ps ↔ p ∈ qs := by
    intro p
    induction p using Nat.strongRecOn with
    | ind p ih =>
      rw [h.mem_iff, h'.mem_iff]
      constructor
      · rintro ⟨hp, hps⟩
        exact ⟨hp, fun q hq hlt => hps q ((ih q hlt).mpr hq) hlt⟩
      · rintro ⟨hp, hqs⟩
        exact ⟨hp, fun q hq hlt => hqs q ((ih q hlt).mp hq) hlt⟩
  exact h.increasing.eq_of_mem_iff h'.increasing hmem

namespace Site

/-- Where the search goes on behind a struct. -/
def next (s : Site) : Nat :=
  match s.close? with
  | some n => n + 1
  | none => s.body

/-- A site stands in the text as it says. -/
structure Lies (s : Site) (t : Text) : Prop where
  header : HeaderAt t s.start s.decl.name s.body
  close? : s.close? = Brace.close? t s.body
  declares : Declares t s.start s.decl

variable {s s' : Site} {ss : List Site}

theorem Lies.start_lt_next (h : s.Lies t) : s.start < s.next := by
  have hlt := h.header.lt
  rw [next, h.close?, Brace.close?_drop]
  cases Brace.close? (t.drop s.body) 0 with
  | none => exact hlt
  | some k =>
    simp only [Option.map_some]
    omega

theorem Lies.lt_next_of_covers (h : s.Lies t) (hp : Covers t s.start p) : p < s.next := by
  obtain ⟨name, body, n, hheader, hn, -, hlt⟩ := hp
  obtain ⟨-, rfl⟩ := h.header.unique hheader
  rw [next, h.close?, hn]
  exact Nat.lt_succ_of_lt hlt

end Site

variable {s : Site} {ss : List Site}

/-- The sites from `i` on are in place and in order, and none is missing. -/
structure Surveyed (t : Text) (i : Nat) (ss : List Site) : Prop where
  lies : ∀ s ∈ ss, i ≤ s.start ∧ s.Lies t
  apart : ss.Pairwise fun s s' => s.next ≤ s'.start
  complete : ∀ p, i ≤ p → IsHeader t p → ∃ s ∈ ss, s.start = p ∨ Covers t s.start p

theorem Surveyed.nil (hi : t.length ≤ i) : Surveyed t i [] := by
  refine ⟨by simp, .nil, ?_⟩
  rintro p hp ⟨name, body, h⟩
  have := List.getElem?_eq_some_iff.mp h.getElem?
  obtain ⟨hlt, -⟩ := this
  omega

theorem Surveyed.skip (hi : ¬ IsHeader t i) (h : Surveyed t (i + 1) ss) : Surveyed t i ss := by
  refine ⟨?_, h.apart, ?_⟩
  · intro s hs
    obtain ⟨hlt, hlies⟩ := h.lies s hs
    exact ⟨by omega, hlies⟩
  · intro p hp hheader
    have hne : p ≠ i := by
      rintro rfl
      exact hi hheader
    exact h.complete p (by omega) hheader

/-- A header that starts inside a site is covered by it. -/
theorem Site.Lies.covers_of_lt (h : s.Lies t) (hp : IsHeader t p) (hlt : s.start < p)
    (hnext : p < s.next) :
    Covers t s.start p := by
  obtain ⟨name, body, hheader⟩ := hp
  have hbody := h.header.body_le hheader hlt
  rw [Site.next, h.close?] at hnext
  split at hnext
  · rename_i n hn
    have hne : p ≠ n := by
      -- A brace stands at `n`.
      rintro rfl
      have hbrace := Brace.getElem?_of_close? hn
      rw [hheader.getElem?] at hbrace
      exact absurd hbrace (by decide)
    exact ⟨_, _, n, h.header, hn, hbody, by omega⟩
  · omega

theorem Surveyed.cons (h : s.Lies t) (hss : Surveyed t s.next ss) :
    Surveyed t s.start (s :: ss) := by
  have hlt := h.start_lt_next
  refine ⟨?_, ?_, ?_⟩
  · intro s' hs'
    rcases List.mem_cons.mp hs' with rfl | hs'
    · exact ⟨Nat.le_refl _, h⟩
    · obtain ⟨hle, hlies⟩ := hss.lies s' hs'
      exact ⟨by omega, hlies⟩
  · exact List.pairwise_cons.mpr ⟨fun s' hs' => (hss.lies s' hs').1, hss.apart⟩
  · intro p hp hheader
    by_cases heq : s.start = p
    · exact ⟨s, List.mem_cons_self, .inl heq⟩
    · by_cases hnext : p < s.next
      · exact ⟨s, List.mem_cons_self, .inr (h.covers_of_lt hheader (by omega) hnext)⟩
      · obtain ⟨s', hs', hp'⟩ := hss.complete p (by omega) hheader
        exact ⟨s', List.mem_cons_of_mem s hs', hp'⟩

theorem Header.Spelled.getLast? (h : Spelled name header) : header.getLast? = some '{' := by
  obtain ⟨s, rfl, -⟩ := h.exists_append
  simp

/-- The site of a header whose struct is never closed. -/
theorem Site.lies_unclosed (hp : Header.boundary a.getLast?) (hh : Header.Spelled name header)
    (hclose : Brace.close? rest 0 = none) :
    Site.Lies ⟨a.length, a.length + header.length, none, ⟨name, []⟩⟩ (a ++ (header ++ rest)) := by
  have hheader : HeaderAt (a ++ (header ++ rest)) a.length name (a.length + header.length) :=
    ⟨a, header, rest, rfl, rfl, hp, hh, rfl⟩
  have hnone : Brace.close? (a ++ (header ++ rest)) (a.length + header.length) = none := by
    rw [Brace.close?_drop, ← List.drop_drop, List.drop_left, List.drop_left, hclose]
    rfl
  exact ⟨hheader, hnone.symm, .unclosed hheader hnone⟩

/-- The site of a header whose struct is closed. -/
theorem Site.lies_closed (hp : Header.boundary a.getLast?) (hh : Header.Spelled name header)
    (hclose : Brace.close? rest 0 = some n) :
    Site.Lies ⟨a.length, a.length + header.length, some (a.length + header.length + n),
      ⟨name, Body.fields (rest.take n)⟩⟩ (a ++ (header ++ rest)) := by
  have hheader : HeaderAt (a ++ (header ++ rest)) a.length name (a.length + header.length) :=
    ⟨a, header, rest, rfl, rfl, hp, hh, rfl⟩
  have hsome : Brace.close? (a ++ (header ++ rest)) (a.length + header.length)
      = some (a.length + header.length + n) := by
    rw [Brace.close?_drop, ← List.drop_drop, List.drop_left, List.drop_left, hclose,
      Option.map_some, Nat.add_comm]
  have hbody : ((a ++ (header ++ rest)).take (a.length + header.length + n)).drop
      (a.length + header.length) = rest.take n := by
    rw [List.drop_take, ← List.drop_drop, List.drop_left, List.drop_left]
    congr 1
    omega
  have hdeclares := Declares.closed hheader hsome
  rw [hbody] at hdeclares
  exact ⟨hheader, hsome.symm, hdeclares⟩

/-- The extraction surveys what is left of a text. -/
theorem surveyed_sitesFrom (a cs : Text) :
    Surveyed (a ++ cs) a.length (sitesFrom a.getLast? a.length cs) := by
  induction hm : cs.length using Nat.strongRecOn generalizing a cs with
  | ind m ih =>
    subst hm
    cases cs with
    | nil =>
      rw [sitesFrom, List.append_nil]
      exact .nil (Nat.le_refl _)
    | cons c cs =>
      rcases Header.here?_cases a.getLast? (c :: cs) with hnone |
        ⟨name, header, rest, hp, hh, heq, -⟩
      · have hrest := ih cs.length (by simp) (a ++ [c]) cs rfl
        rw [← List.append_cons, List.getLast?_concat, List.length_append] at hrest
        rw [sitesFrom_cons_of_none hnone]
        refine .skip ?_ hrest
        rintro ⟨name, body, hheader⟩
        have hhere := hheader.here?.1
        rw [List.take_left, List.drop_left, hnone] at hhere
        exact absurd hhere (by simp)
      · have hlen : rest.length < (c :: cs).length := by
          have := List.length_pos_iff.mpr hh.ne_nil
          rw [heq, List.length_append]
          omega
        rw [heq]
        cases hclose : Brace.close? rest 0 with
        | none =>
          have hrest := ih rest.length hlen (a ++ header) rest rfl
          rw [List.append_assoc, List.getLast?_append, hh.getLast?, List.length_append] at hrest
          rw [sitesFrom_of_open hp hh hclose]
          exact .cons (Site.lies_unclosed hp hh hclose) hrest
        | some n =>
          obtain ⟨hn, hget⟩ := List.getElem?_eq_some_iff.mp (Brace.getElem?_of_close? hclose)
          have htake : rest.take (n + 1) = rest.take n ++ ['}'] := by
            rw [List.take_succ_eq_append_getElem hn, hget]
          have hsplit :
              a ++ (header ++ rest) = a ++ header ++ rest.take (n + 1) ++ rest.drop (n + 1) := by
            simp
          have hrest := ih (rest.drop (n + 1)).length (by rw [List.length_drop]; omega)
            (a ++ header ++ rest.take (n + 1)) (rest.drop (n + 1)) rfl
          have hlast : (a ++ header ++ rest.take (n + 1)).getLast? = some '}' := by
            rw [htake, ← List.append_assoc, List.getLast?_concat]
          have hlength : (a ++ header ++ rest.take (n + 1)).length
              = a.length + header.length + n + 1 := by
            simp only [List.length_append, List.length_take]
            omega
          rw [← hsplit, hlast, hlength] at hrest
          rw [sitesFrom_of_closed hp hh hclose]
          exact .cons (Site.lies_closed hp hh hclose) hrest

theorem surveyed_sites (t : Text) : Surveyed t 0 (sites t) :=
  surveyed_sitesFrom [] t

/-- Every reported struct is declared by a header of the text. -/
theorem exists_declares_of_mem {decl : StructDecl} (h : decl ∈ structs t) :
    ∃ p, Declares t p decl := by
  rw [← map_decl_sites] at h
  obtain ⟨s, hs, rfl⟩ := List.mem_map.mp h
  exact ⟨s.start, ((surveyed_sites t).lies s hs).2.declares⟩

/-- Of two sites the later one starts where the search went on behind the earlier one, or after
that. -/
theorem Surveyed.next_le {s' : Site} (h : Surveyed t i ss) (hs : s ∈ ss) (hs' : s' ∈ ss)
    (hlt : s.start < s'.start) : s.next ≤ s'.start := by
  obtain ⟨j, hj, rfl⟩ := List.mem_iff_getElem.mp hs
  obtain ⟨k, hk, rfl⟩ := List.mem_iff_getElem.mp hs'
  have hapart := List.pairwise_iff_getElem.mp h.apart
  rcases Nat.lt_trichotomy j k with hjk | rfl | hjk
  · exact hapart j k hj hk hjk
  · omega
  · have hle := hapart k j hk hj hjk
    have := (h.lies _ hs').2.start_lt_next
    omega

theorem Covers.lt (h : Covers t q p) : q < p := by
  obtain ⟨name, body, n, hheader, -, hle, -⟩ := h
  have := hheader.lt
  omega

/-- The starts of the sites are the reported positions. -/
theorem Surveyed.reported (h : Surveyed t 0 ss) : Reported t (ss.map Site.start) := by
  constructor
  · rw [List.pairwise_map]
    refine h.apart.imp_of_mem fun {s s'} hs _ hle => ?_
    have := (h.lies s hs).2.start_lt_next
    omega
  · intro p
    simp only [List.mem_map]
    constructor
    · rintro ⟨s, hs, rfl⟩
      refine ⟨⟨_, _, (h.lies s hs).2.header⟩, ?_⟩
      rintro _ ⟨s', hs', rfl⟩ hlt hcovers
      have hle := h.next_le hs' hs hlt
      have := (h.lies s' hs').2.lt_next_of_covers hcovers
      omega
    · rintro ⟨hp, hnot⟩
      obtain ⟨s, hs, heq | hcovers⟩ := h.complete p (Nat.zero_le p) hp
      · exact ⟨s, hs, heq⟩
      · exact absurd hcovers (hnot _ ⟨s, hs, rfl⟩ hcovers.lt)

theorem Surveyed.declares (h : Surveyed t i ss) :
    List.Forall₂ (Declares t) (ss.map Site.start) (ss.map Site.decl) := by
  rw [List.forall₂_map_left_iff, List.forall₂_map_right_iff, List.forall₂_same]
  exact fun s hs => (h.lies s hs).2.declares

/-- The header at `q` belongs to a struct that is never closed. -/
def Unclosed (t : Text) (q : Nat) : Prop :=
  ∃ name body, HeaderAt t q name body ∧ Brace.close? t body = none

theorem Unclosed.not_covers (h : Unclosed t q) : ¬ Covers t q p := by
  rintro ⟨name, body, n, hheader, hn, -, -⟩
  obtain ⟨name', body', hheader', hnone⟩ := h
  obtain ⟨-, rfl⟩ := hheader.unique hheader'
  simp [hn] at hnone

/-- A header behind an unclosed struct is reported, or covered by a later struct. -/
theorem Surveyed.exists_later (h : Surveyed t 0 ss) (hs : s ∈ ss) (hopen : Unclosed t s.start)
    (hp : IsHeader t p) (hlt : s.start < p) :
    p ∈ ss.map Site.start ∨ ∃ r ∈ ss.map Site.start, s.start < r ∧ Covers t r p := by
  obtain ⟨s', hs', heq | hcovers⟩ := h.complete p (Nat.zero_le p) hp
  · exact .inl (List.mem_map.mpr ⟨s', hs', heq⟩)
  · refine .inr ⟨s'.start, List.mem_map_of_mem hs', ?_, hcovers⟩
    have hne : s.start ≠ s'.start := by
      intro heq
      exact hopen.not_covers (heq ▸ hcovers)
    have hend := (h.lies s' hs').2.lt_next_of_covers hcovers
    by_contra hle
    have := h.next_le hs' hs (by omega)
    omega

/-- The structs of a text are, in order, what its reported headers declare. Which headers are
reported is fixed by the text alone, and an unclosed struct hides no header behind it. -/
theorem structs_declared (t : Text) :
    ∃ ps, Reported t ps ∧ (∀ qs, Reported t qs → qs = ps)
      ∧ List.Forall₂ (Declares t) ps (structs t)
      ∧ ∀ q ∈ ps, Unclosed t q → ∀ p, IsHeader t p → q < p →
          p ∈ ps ∨ ∃ r ∈ ps, q < r ∧ Covers t r p := by
  have hsites := surveyed_sites t
  refine ⟨(sites t).map Site.start, hsites.reported, ?_, ?_, ?_⟩
  · exact fun qs hqs => hqs.unique hsites.reported
  · rw [← map_decl_sites]
    exact hsites.declares
  · intro q hq hopen p hp hlt
    obtain ⟨s, hs, rfl⟩ := List.mem_map.mp hq
    exact hsites.exists_later hs hopen hp hlt

/-- The first struct is never closed. It does not hide the second one, whose body covers the
third. -/
example :
    (sites "type A struct \x7b\x7b\ntype B struct \x7b\ntype C struct \x7b\x7d\x7d".toList).map
      Site.start
      = [0, 17] := by
  decide +kernel

end TagLint
