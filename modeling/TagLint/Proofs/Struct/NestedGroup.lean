import TagLint.Proofs.Struct.LinePlace
import TagLint.Proofs.Struct.PlainLine
import TagLint.Proofs.Struct.Readings

/-! Nested groups: the count by lines ends a group where the search for its closing brace does, as
long as the lines of the group are plain. -/
namespace TagLint
open Text

/-! ## The search, seen by the automaton -/

namespace Brace

variable {m : Mode} {d n : Nat} {t : Text} {c : Char} {ls : List Text}

/-- Up to the brace at which the search ends at least one group is open, and in front of it one. -/
theorem read_of_scan? (hd : 1 ≤ d) (h : scan? m d t = some n) :
    (∃ m', m'.isCode ∧ Reader.read ⟨m, d⟩ (t.take n) = ⟨m', 1⟩)
      ∧ ∀ p, p <+: t.take n → 1 ≤ (Reader.read ⟨m, d⟩ p).depth := by
  induction t generalizing m d n with
  | nil => simp [scan?] at h
  | cons c t ih =>
    rw [scan?] at h
    cases hc : m.closes c d with
    | true =>
      obtain rfl : 0 = n := by simpa [hc] using h
      obtain ⟨⟨hm, -⟩, hone⟩ : (m.isCode ∧ c = '}') ∧ d ≤ 1 := by simpa [Mode.closes] using hc
      obtain rfl : d = 1 := by omega
      refine ⟨⟨m, hm, rfl⟩, fun p hp => ?_⟩
      obtain rfl := List.prefix_nil.mp hp
      exact Int.le_refl 1
    | false =>
      obtain ⟨hstep, hd'⟩ := step_of_not_closes hd hc
      rw [hc, if_neg Bool.false_ne_true] at h
      obtain ⟨k, hk, rfl⟩ := Option.map_eq_some_iff.mp h
      obtain ⟨⟨m', hm', hread⟩, hprefix⟩ := ih hd' hk
      rw [List.take_succ_cons]
      refine ⟨⟨m', hm', by rw [Reader.read_cons, hstep, hread]⟩, fun p hp => ?_⟩
      rcases List.prefix_cons_iff.mp hp with rfl | ⟨q, rfl, hq⟩
      · exact Int.ofNat_le.mpr hd
      · rw [Reader.read_cons, hstep]
        exact hprefix q hq

/-- What stands between an opening brace and the one that closes its group. -/
theorem exists_of_close? {o c : Nat} (h : close? t (o + 1) = some c) :
    ∃ w m, t.take c = t.take (o + 1) ++ w ∧ o < c ∧ m.isCode ∧ Reader.read {} w = ⟨m, 1⟩
      ∧ ∀ p, p <+: w → 1 ≤ (Reader.read {} p).depth := by
  rw [close?_eq_scan?] at h
  obtain ⟨k, hk, rfl⟩ := Option.map_eq_some_iff.mp h
  obtain ⟨⟨m, hm, hread⟩, hprefix⟩ := read_of_scan? (Nat.le_refl 1) hk
  refine ⟨(t.drop (o + 1)).take k, m, ?_, by omega, hm, hread, hprefix⟩
  rw [Nat.add_comm k, List.take_add]

theorem Reader.step_close (hm : m.isCode) (d : Int) : step ⟨m, d⟩ '}' = ⟨.code, d - 1⟩ := by
  cases m with
  | code => rfl
  | slash => rfl
  | _ => simp [Mode.isCode] at hm

theorem Plain.append {a : Text} (ha : ∀ c ∈ a, c ∉ ['/', backtick, '"', '\'']) (h : Plain t) :
    Plain (a ++ t) := by
  induction a with
  | nil => exact h
  | cons c a ih =>
    obtain ⟨hc, ha⟩ := List.forall_mem_cons.mp ha
    exact .code hc (ih ha)

/-- Blanks are plain. -/
theorem Plain.of_blank (ht : ∀ c ∈ t, isBlank c) : Plain t := by
  have hcode : ∀ c ∈ t, c ∉ ['/', backtick, '"', '\''] := by
    intro c hc hm
    have hnone : ∀ c ∈ ['/', backtick, '"', '\''], isBlank c = false := by decide
    exact absurd ((hnone c hm).symm.trans (ht c hc)) (by decide)
  have h := Plain.append hcode .nil
  rwa [List.append_nil] at h

/-- Reading whole plain lines counts what the counts of the lines add up to. -/
theorem read_unlines (h : ∀ l ∈ ls, Plain l ∧ '\n' ∉ l) (d : Int) :
    Reader.read ⟨.code, d⟩ (Source.unlines ls) = ⟨.code, d + (ls.map delta).sum⟩ := by
  induction ls generalizing d with
  | nil => simp
  | cons l ls ih =>
    obtain ⟨⟨hplain, hl⟩, hls⟩ := List.forall_mem_cons.mp h
    obtain ⟨m, hread, hm⟩ := hplain.read hl d
    have hend : Reader.step ⟨m, d + delta l⟩ '\n' = ⟨.code, d + delta l⟩ := by
      simp [Reader.step, hm]
    rw [Source.unlines_cons, Reader.read_append, Reader.read_append, hread, Reader.read_cons, hend,
      Reader.read_nil, ih hls, List.map_cons, List.sum_cons, Int.add_assoc]

end Brace

namespace Body

variable {a b body line name : Text} {l : NumberedLine} {ts pre mid post : List Text} {d : Int}
  {n : Nat}

/-! ## Counts of the lines that say something -/

/-- A line that says nothing has no braces. -/
theorem delta_of_not_isContent (h : isContent (trim line) = false) : Brace.delta line = 0 := by
  rw [← Brace.delta_trim]
  generalize trim line = t at h
  cases t with
  | nil => exact Brace.delta_nil
  | cons c t =>
    obtain ⟨r, hr⟩ : "//".toList <+: c :: t := by simpa [isContent] using h
    rw [← hr]
    exact Brace.delta_comment r

theorem numberedFrom_singleton (h : isContent (trim line)) (n : Nat) :
    numberedFrom n [line] = [⟨n, trim line⟩] := by
  simp [numberedFrom, h]

theorem total_numberedFrom (n : Nat) (ts : List Text) :
    total (numberedFrom n ts) = (ts.map Brace.delta).sum := by
  induction ts generalizing n with
  | nil => rfl
  | cons t ts ih =>
    rw [numberedFrom_cons, total_append, ih, List.map_cons, List.sum_cons]
    cases h : isContent (trim t) with
    | true => simp [h, Brace.delta_trim]
    | false => simp [h, delta_of_not_isContent h]

theorem staysOpen_numberedFrom (n : Nat) (h : ∀ p, p <+: ts → 0 < d + (p.map Brace.delta).sum) :
    StaysOpen d (numberedFrom n ts) := by
  induction ts generalizing d n with
  | nil => exact staysOpen_nil.mpr (by simpa using h [] List.nil_prefix)
  | cons t ts ih =>
    have hrest : ∀ p, p <+: ts → 0 < d + Brace.delta t + (p.map Brace.delta).sum := by
      intro p hp
      have := h (t :: p) (List.cons_prefix_cons.mpr ⟨rfl, hp⟩)
      rw [List.map_cons, List.sum_cons] at this
      omega
    rw [numberedFrom_cons]
    cases hc : isContent (trim t) with
    | true =>
      have hd : 0 < d := by simpa using h [] List.nil_prefix
      have hone : [NumberedLine.mk n (trim t)].filter (fun l => isContent l.text)
          = [⟨n, trim t⟩] := by
        simp [hc]
      rw [hone, List.singleton_append, staysOpen_cons, Brace.delta_trim]
      exact ⟨hd, ih (n + 1) hrest⟩
    | false =>
      rw [delta_of_not_isContent hc, Int.add_zero] at hrest
      simpa [hc] using ih (n + 1) hrest

theorem exists_of_mem_numbered (h : l ∈ numbered body) :
    ∃ t, (lines body)[l.number]? = some t ∧ l.text = trim t ∧ isContent l.text := by
  obtain ⟨hmem, hcontent⟩ := List.mem_filter.mp h
  obtain ⟨p, hp, rfl⟩ := List.mem_map.mp hmem
  exact ⟨p.1, List.mem_zipIdx_iff_getElem?.mp hp, rfl, hcontent⟩

/-- Behind the brace of an opener the line is blank, and it closes nothing. -/
theorem blank_of_opener? (h : opener? (trim (a ++ '{' :: b)) = some name) :
    (∀ c ∈ b, isBlank c) ∧ '}' ∉ a ++ '{' :: b := by
  obtain ⟨s, r, htrim, hs, hr⟩ := exists_of_opener? h
  obtain ⟨p, q, hp, hq, hline⟩ := exists_eq_append_trim (a ++ '{' :: b)
  have hsides : ∀ c, isWord c = false ∧ isBlank c = false ∧ c ∉ "[]*".toList → c ∉ p ++ s ∧
      c ∉ r ++ q := by
    intro c hc
    have hblank : ∀ t : Text, (∀ x ∈ t, isBlank x) → c ∉ t := fun t ht => not_mem_of_class ht hc.2.1
    simp [hblank p hp, hblank r hr, hblank q hq, not_mem_opener hs hc]
  obtain ⟨hleft, hright⟩ := hsides '{' (by decide)
  have hsplit : (p ++ s) ++ '{' :: (r ++ q) = a ++ '{' :: b := by
    rw [hline, htrim]
    simp
  obtain ⟨-, -, hb⟩ := (List.append_cons_inj_of_notMem hleft hright).mp hsplit
  obtain ⟨hclose, hclose'⟩ := hsides '}' (by decide)
  refine ⟨fun c hc => ?_, ?_⟩
  · rw [← hb] at hc
    rcases List.mem_append.mp hc with hc | hc
    · exact hr c hc
    · exact hq c hc
  · rw [← hsplit, List.mem_append, List.mem_cons]
    rintro (hm | hm | hm)
    · exact hclose hm
    · exact absurd hm (by decide)
    · exact hclose' hm

/-- Two lines of a body, and the lines before, between and behind them. -/
theorem numbered_between (pre mid post : List Text) (first last : Text) :
    numberedFrom 0 (pre ++ first :: (mid ++ last :: post))
      = numberedFrom 0 pre ++ (numberedFrom pre.length [first] ++ (numberedFrom (pre.length + 1) mid
        ++ (numberedFrom (pre.length + 1 + mid.length) [last]
          ++ numberedFrom (pre.length + 1 + mid.length + 1) post))) := by
  rw [← List.singleton_append, ← List.singleton_append (l := post), numberedFrom_append,
    Nat.zero_add, numberedFrom_append, numberedFrom_append _ mid, numberedFrom_append _ [last]]
  rfl

/-- The lines between two lines, by their numbers. -/
theorem filter_between (pre mid post : List Text) (first last : Text) :
    (numberedFrom 0 (pre ++ first :: (mid ++ last :: post))).filter
        (fun l => pre.length < l.number ∧ l.number < pre.length + 1 + mid.length)
      = numberedFrom (pre.length + 1) mid := by
  have hnone : ∀ n ts, n + ts.length ≤ pre.length + 1 ∨ pre.length + 1 + mid.length ≤ n →
      (numberedFrom n ts).filter
        (fun l => pre.length < l.number ∧ l.number < pre.length + 1 + mid.length) = [] := by
    intro n ts h
    apply List.filter_eq_nil_iff.mpr
    intro l hl
    have := number_of_mem_numberedFrom hl
    simp only [decide_eq_true_eq]
    omega
  have hmid : (numberedFrom (pre.length + 1) mid).filter
      (fun l => pre.length < l.number ∧ l.number < pre.length + 1 + mid.length)
        = numberedFrom (pre.length + 1) mid := by
    apply List.filter_eq_self.mpr
    intro l hl
    have := number_of_mem_numberedFrom hl
    simp only [decide_eq_true_eq]
    omega
  simp only [numbered_between, List.filter_append]
  rw [hmid, hnone 0 pre (by omega), hnone pre.length [first] (by simp), hnone _ [last] (by omega),
    hnone _ post (by omega)]
  simp

theorem drop_take_between (pre mid post : List Text) (first last : Text) :
    ((pre ++ first :: (mid ++ last :: post)).take (pre.length + 1 + mid.length + 1)).drop
      (pre.length + 1)
      = mid ++ [last] := by
  have hlength : pre.length + 1 + mid.length + 1 - (pre.length + 1) = (mid ++ [last]).length := by
    rw [List.length_append, List.length_singleton]
    omega
  rw [List.drop_take, hlength, List.append_cons pre, List.drop_left' (by simp),
    List.append_cons mid last
    post, List.take_left]

/-! ## Where the group ends -/

variable {g : Group} {o c stop : Nat} {w t : Text} {m : Brace.Mode}

/-- The line of an opener ends before its group does. -/
theorem lineOf_lt_of_opener? (hbrace : body[o]? = some '{') (hclose : body[c]? = some '}')
    (hoc : o < c)
    (hopener : opener? (trim (lineBefore body o ++ '{' :: lineAfter body o)) = some name) :
    lineOf body o < lineOf body c := by
  apply Nat.lt_of_le_of_ne (lineOf_le hoc.le body)
  intro hsame
  have hfirst := getElem?_lines hbrace (by decide)
  have hlast := getElem?_lines hclose (by decide)
  rw [← hsame, hfirst] at hlast
  have hnone := (blank_of_opener? hopener).2
  rw [Option.some.inj hlast] at hnone
  exact hnone (by simp)

/-- Reading from a brace on, through the lines behind it, gives the sums of their counts: positive
ones up to the last line, and zero behind it. -/
theorem sums_of_read {first before rest : Text} (hfirst : ∀ x ∈ first, isBlank x) (hm : m.isCode)
    (hread : Brace.Reader.read {} (Source.unlines (first :: mid) ++ before) = ⟨m, 1⟩)
    (hdepth : ∀ p, p <+: Source.unlines (first :: mid) ++ before →
      1 ≤ (Brace.Reader.read {} p).depth)
    (hplain : ∀ l ∈ mid ++ [before ++ '}' :: rest], Brace.Plain l)
    (hnewline : ∀ l ∈ first :: (mid ++ [before ++ '}' :: rest]), '\n' ∉ l)
    (hrest : (Brace.Reader.read ⟨.code, 0⟩ rest).depth = 0) :
    (∀ p, p <+: mid → 0 < 1 + (p.map Brace.delta).sum)
      ∧ 1 + (mid.map Brace.delta).sum + Brace.delta (before ++ '}' :: rest) = 0 := by
  have hblank : Brace.delta first = 0 := by
    have := Brace.delta_append_of_blank hfirst []
    rwa [List.nil_append, Brace.delta_nil] at this
  have hlines : ∀ p, p <+: mid →
      Brace.Reader.read {} (Source.unlines (first :: p))
        = ⟨.code, 1 + (p.map Brace.delta).sum⟩ := by
    intro p hp
    have hall : ∀ l ∈ first :: p, Brace.Plain l ∧ '\n' ∉ l := by
      refine List.forall_mem_cons.mpr ⟨⟨.of_blank hfirst, hnewline _ List.mem_cons_self⟩,
        fun l hl => ?_⟩
      have hl := List.mem_append_left [before ++ '}' :: rest] (hp.subset hl)
      exact ⟨hplain l hl, hnewline l (List.mem_cons_of_mem _ hl)⟩
    have h := Brace.read_unlines hall 1
    rw [List.map_cons, List.sum_cons, hblank, Int.zero_add] at h
    exact h
  constructor
  · intro p hp
    obtain ⟨r, rfl⟩ := hp
    have h :=
      hdepth (Source.unlines (first :: p)) ⟨Source.unlines r ++ before,
        by simp [Source.unlines_cons]⟩
    rw [hlines p ⟨r, rfl⟩] at h
    exact h
  · have hlast : before ++ '}' :: rest ∈ mid ++ [before ++ '}' :: rest] := by simp
    obtain ⟨m', hend, -⟩ := (hplain _ hlast).read (hnewline _ (List.mem_cons_of_mem _ hlast))
      (1 + (mid.map Brace.delta).sum)
    have hthrough : Brace.Reader.read {} (Source.unlines (first :: mid) ++ (before ++ '}' :: rest))
        = Brace.Reader.read ⟨.code, 0⟩ rest := by
      rw [← List.append_assoc, Brace.Reader.read_append, hread, Brace.Reader.read_cons,
        Brace.Reader.step_close hm]
      rfl
    rw [Brace.Reader.read_append, hlines mid (List.prefix_refl mid), hend] at hthrough
    rw [← hthrough] at hrest
    exact hrest

/-- From the opener to the brace at which its depth is zero again, both counts go together. -/
theorem inner_eq_of_read (hg : .group g ∈ readings (numbered body))
    (hbrace : body[o]? = some '{') (hline : lineOf body o = g.opener.number)
    (hclose : body[c]? = some '}') (hoc : o < c) (hw : body.take c = body.take (o + 1) ++ w)
    (hm : m.isCode) (hread : Brace.Reader.read {} w = ⟨m, 1⟩)
    (hdepth : ∀ p, p <+: w → 1 ≤ (Brace.Reader.read {} p).depth)
    (hplain : ∀ l ∈ ((lines body).take (lineOf body c + 1)).drop (lineOf body o + 1), Brace.Plain l)
    (hrest : (Brace.Reader.read ⟨.code, 0⟩ (lineAfter body c)).depth = 0) :
    g.inner = (numbered body).filter (fun l => lineOf body o < l.number ∧ l.number < lineOf body c)
      ∧ g.closing = some ⟨lineOf body c, trim (lineBefore body c ++ '}' :: lineAfter body c)⟩ := by
  obtain ⟨before, rest, beyond, hnumbered, hopener, -, -⟩ := exists_of_mem_readings hg
  have hmem : g.opener ∈ numbered body := by
    rw [hnumbered]
    simp
  obtain ⟨first, hfirst, htext, hcontent⟩ := exists_of_mem_numbered hmem
  obtain rfl : lineBefore body o ++ '{' :: lineAfter body o = first := by
    have := getElem?_lines hbrace (by decide)
    rw [hline, hfirst] at this
    exact (Option.some.inj this).symm
  rw [htext] at hopener hcontent
  have hlt := lineOf_lt_of_opener? hbrace hclose hoc hopener
  obtain ⟨pre, mid, post, hlines, hpre, hmid, htake⟩ :=
    exists_lines_between hbrace (by decide) hclose (by decide) hlt
  obtain rfl := List.append_cancel_left (hw.symm.trans htake)
  have hbetween : ((lines body).take (lineOf body c + 1)).drop (lineOf body o + 1)
      = mid ++ [lineBefore body c ++ '}' :: lineAfter body c] := by
    rw [hlines, ← hmid, ← hpre, drop_take_between]
  have hnewline : ∀ l ∈ lineAfter body o :: (mid ++ [lineBefore body c ++ '}' :: lineAfter body c]),
      '\n' ∉ l := by
    refine List.forall_mem_cons.mpr ⟨newline_not_mem_takeWhile _, fun l hl => ?_⟩
    rw [← hbetween] at hl
    exact not_mem_of_mem_split (List.mem_of_mem_take (List.mem_of_mem_drop hl))
  rw [hbetween] at hplain
  obtain ⟨hopen, hend⟩ :=
    sums_of_read (blank_of_opener? hopener).1 hm hread hdepth hplain hnewline hrest
  have hsay : isContent (trim (lineBefore body c ++ '}' :: lineAfter body c)) := by
    by_contra hnot
    have hzero := delta_of_not_isContent (Bool.eq_false_iff.mpr hnot)
    have hpos := hopen mid (List.prefix_refl mid)
    omega
  have hsplit : numbered body = numberedFrom 0 pre ++ g.opener :: (numberedFrom (pre.length + 1) mid
      ++ ⟨lineOf body c, trim (lineBefore body c ++ '}' :: lineAfter body c)⟩
        :: numberedFrom (lineOf body c + 1) post) := by
    have hopener :
        g.opener = ⟨pre.length, trim (lineBefore body o ++ '{' :: lineAfter body o)⟩ := by
      rw [hpre, hline, ← htext]
    rw [numbered, hlines, numbered_between, numberedFrom_singleton hcontent,
      numberedFrom_singleton hsay, ← hopener, hpre, hmid]
    rfl
  have hfilter := filter_between pre mid post (lineBefore body o ++ '{' :: lineAfter body o)
    (lineBefore body c ++ '}' :: lineAfter body c)
  rw [← hlines, hpre, hmid] at hfilter
  rw [numbered, hfilter, ← hpre]
  apply inner_eq_of_balanced hg (nodup_numberedFrom 0 (lines body)) hsplit
  · exact staysOpen_numberedFrom _ hopen
  · rw [total_numberedFrom, Brace.delta_trim]
    exact hend

/-- A group whose closing line starts with its brace gives the field that holds it. -/
theorem exists_holder_eq {closing : NumberedLine} (hclosing : g.closing = some closing)
    (htext : closing.text = trim (a ++ '}' :: b)) (ha : ∀ x ∈ a, isBlank x) :
    ∃ tag, g.holder = some ⟨g.name, "struct".toList, tag⟩ := by
  obtain ⟨r, hr⟩ : ∃ r, trim (a ++ '}' :: b) = '}' :: r := by
    have hhead : ∀ x ∈ ('}' :: b).head?, isBlank x = false := by
      intro x hx
      obtain rfl : '}' = x := by simpa using hx
      decide
    have hleft : trimLeft (a ++ '}' :: b) = '}' :: b := dropWhile_append_of_stop ha hhead
    exact ⟨trimRight b,
      by rw [trim, hleft, ← List.singleton_append, trimRight_append (by decide)]; rfl⟩
  rw [Group.holder, hclosing, Option.bind_some, htext, hr]
  exact ⟨_, rfl⟩

/-- For any part of a text that is read as a body, any group in it, and the brace that opens it: if
the search ends the group inside this part, the lines behind the opener are plain up to there, and
the rest of the last of them has as many opening as closing braces, then the group takes the lines
up to this one, and the field that holds it follows their fields whenever nothing stands before the
brace on its line. -/
theorem group_ends_where_closed (t : Text) (stop o c : Nat) (g : Group)
    (hg : .group g ∈ readings (numbered (t.take stop)))
    (hbrace : (t.take stop)[o]? = some '{') (hline : lineOf (t.take stop) o = g.opener.number)
    (hclose : Brace.close? t (o + 1) = some c) (hc : c < stop)
    (hplain : ∀ l ∈ ((lines (t.take stop)).take (lineOf t c + 1)).drop (lineOf t o + 1),
      Brace.Plain l)
    (hrest : (Brace.Reader.read ⟨.code, 0⟩ (lineAfter (t.take stop) c)).depth = 0) :
    ∃ closing fs fs', g.closing = some closing ∧ closing.number = lineOf t c
      ∧ g.inner = (numbered (t.take stop)).filter
          (fun l => lineOf t o < l.number ∧ l.number < lineOf t c)
      ∧ fields (t.take stop) = fs ++ (fieldsOfLines (g.inner.map (·.text)) ++ g.holder.toList
        ++ fs')
      ∧ ((∀ x ∈ lineBefore t c, isBlank x) → ∃ tag,
        g.holder = some ⟨g.name, "struct".toList, tag⟩) := by
  obtain ⟨w, m, hw, hoc, hm, hread, hdepth⟩ := Brace.exists_of_close? hclose
  have hcbrace : (t.take stop)[c]? = some '}' := by
    rw [List.getElem?_take_of_lt hc]
    exact Brace.getElem?_of_close? hclose
  have hw' : (t.take stop).take c = (t.take stop).take (o + 1) ++ w := by
    rw [List.take_take, List.take_take, Nat.min_eq_left hc.le, Nat.min_eq_left (by omega), hw]
  rw [← lineOf_take hc.le t, ← lineOf_take (hoc.trans hc).le t] at hplain ⊢
  obtain ⟨hinner, hclosing⟩ :=
    inner_eq_of_read hg hbrace hline hcbrace hoc hw' hm hread hdepth hplain hrest
  obtain ⟨fs, fs', hfields⟩ := exists_fields_eq hg
  refine ⟨_, fs, fs', hclosing, rfl, hinner, hfields, fun hblank => ?_⟩
  rw [← lineBefore_take hc.le t] at hblank
  exact exists_holder_eq hclosing rfl hblank

/-- A block comment without braces, a brace in a line comment and one in a raw string. -/
def notedGroup : Text :=
  "\n N struct \x7b\n  /* size */ X int // \x7d\n  S string \x60\x7d\x60\n".toList
    ++ " \x7d \x60gorm:\"size:3\"\x60\n\x7d".toList

theorem group_ends_where_closed_noted :
    let g : Group := ⟨['N'], ⟨1, "N struct \x7b".toList⟩,
      [⟨2, "/* size */ X int // \x7d".toList⟩, ⟨3, "S string \x60\x7d\x60".toList⟩],
      some ⟨4, "\x7d \x60gorm:\"size:3\"\x60".toList⟩⟩
    (.group g ∈ readings (numbered (notedGroup.take 71)) ∧ Brace.close? notedGroup 12 = some 53)
      ∧ ∃ fs fs', fields (notedGroup.take 71)
        = fs ++ (fieldsOfLines (g.inner.map (·.text))
          ++ [⟨['N'], "struct".toList, "gorm:\"size:3\"".toList⟩]
          ++ fs') := by
  intro g
  have hg : .group g ∈ readings (numbered (notedGroup.take 71)) := by decide +kernel
  have hclose : Brace.close? notedGroup 12 = some 53 := by decide +kernel
  have hlines :
      ((lines (notedGroup.take 71)).take (lineOf notedGroup 53 + 1)).drop (lineOf notedGroup 11 + 1)
      = ["  ".toList
        ++ (['/', '*'] ++ (" size ".toList ++ ['*', '/'])
          ++ (" X int ".toList ++ "// \x7d".toList)),
        "  S string ".toList ++ ([backtick] ++ ['}'] ++ [backtick] ++ []),
        " \x7d ".toList ++ ([backtick] ++ "gorm:\"size:3\"".toList ++ [backtick] ++ [])] := by
    decide +kernel
  have hplain : ∀ l ∈ ((lines (notedGroup.take 71)).take (lineOf notedGroup 53 + 1)).drop
      (lineOf notedGroup 11 + 1), Brace.Plain l := by
    rw [hlines]
    simp only [List.forall_mem_cons, List.not_mem_nil, false_imp_iff, implies_true, and_true]
    refine ⟨.append (by decide) (.block (by decide) (by decide) (.append (by decide) (.comment _))),
      .append (by decide) (.raw (by decide) .nil), .append (by decide) (.raw (by decide) .nil)⟩
  obtain ⟨-, fs, fs', -, -, -, hfields, -⟩ :=
    group_ends_where_closed notedGroup 71 11 53 g hg (by decide +kernel)
      (by decide +kernel) hclose (by decide) hplain (by decide +kernel)
  exact ⟨⟨hg, hclose⟩, fs, fs', hfields⟩

/-- The same with a brace in the block comment. -/
def commentedBrace : Text :=
  "\n N struct \x7b\n  /* \x7d */\n  X int\n \x7d \x60gorm:\"size:x\"\x60\n\x7d".toList

/-- The count by lines sees the brace in the comment, and ends the group there: the field that holds
it is lost. -/
theorem group_ends_in_comment :
    (commentedBrace[11]? = some '{' ∧ lineOf commentedBrace 11 = 1
      ∧ Brace.close? commentedBrace 0 = some 50 ∧ Brace.close? commentedBrace 12 = some 32
      ∧ lineOf commentedBrace 32 = 4 ∧ lineBefore commentedBrace 32 = [' '])
    ∧ .group ⟨['N'], ⟨1, "N struct \x7b".toList⟩, [], some ⟨2, "/* \x7d */".toList⟩⟩
        ∈ readings (numbered (commentedBrace.take 50))
    ∧ fields (commentedBrace.take 50) = [⟨['X'], "int".toList, []⟩] := by
  decide +kernel

end Body
end TagLint
