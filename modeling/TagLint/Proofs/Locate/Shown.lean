import TagLint.Proofs.Locate.Header
import TagLint.Proofs.Text.Pieces

/-! What a located range shows: a key, a field or a struct that stands in the text, or nothing. -/
namespace TagLint
open Text

variable {r : Range} {t shown line name field : Text} {key : Option Text} {n c : Nat}

/-- The range covers `shown`, which stands on line `n` of the text from column `c` on. -/
structure Range.Shows (r : Range) (t : Text) (n c : Nat) (shown : Text) : Prop where
  start : r.start = ⟨n, c⟩
  stop : r.stop = ⟨n, c + shown.length⟩
  start_lt_stop : r.start.character < r.stop.character
  stop_le : ∃ line, (lines t)[n]? = some line ∧ c + shown.length ≤ line.length
  slice : r.slice t = shown

namespace Range

theorem slice_onLine (hline : (lines t)[n]? = some line) (h : shown <+: line.drop c) :
    (onLine n c shown.length).slice t = shown := by
  obtain ⟨hlt, -⟩ := List.getElem?_eq_some_iff.mp hline
  obtain ⟨rest, hrest⟩ := h
  have hcut : (line.take (c + shown.length)).drop c = shown := by
    rw [List.drop_take, ← hrest, Nat.add_sub_cancel_left, List.take_left]
  have hline' : ¬ ((lines t).length : Int) ≤ n := by omega
  have hneg : ¬ (n : Int) < 0 := by omega
  have hstart : ¬ (c : Int) < 0 := by omega
  have hstop : ¬ (c + shown.length : Int) < 0 := by omega
  have hnat : ((c : Int) + shown.length).toNat = c + shown.length := by omega
  simp [Range.slice, slice?, onLine, hline', hneg, hline, Text.slice, hstart, hstop, hnat, hcut]

/-- A text that stands on a line is shown by the range over it. -/
theorem shows_onLine (hne : shown ≠ []) (hline : (lines t)[n]? = some line)
    (h : shown <+: line.drop c) : (onLine n c shown.length).Shows t n c shown where
  start := rfl
  stop := rfl
  start_lt_stop := by
    have := List.length_pos_iff.mpr hne
    simp only [onLine]
    omega
  stop_le := ⟨line, hline, add_length_le_of_prefix hne h⟩
  slice := slice_onLine hline h

theorem clamp_natCast (n c : Nat) : clamp ⟨n, c⟩ = ⟨n, c⟩ := by
  simp only [clamp, Position.mk.injEq]
  omega

/-- An editor gets such a range as it is. -/
theorem Shows.forEditor (h : r.Shows t n c shown) : r.forEditor = r := by
  obtain ⟨start, stop⟩ := r
  obtain ⟨hstart, hstop, hlt, -, -⟩ := h
  obtain rfl : start = ⟨n, c⟩ := hstart
  obtain rfl : stop = ⟨n, (c + shown.length : Nat)⟩ := hstop
  have hinverted : isInverted ⟨⟨n, c⟩, ⟨n, (c + shown.length : Nat)⟩⟩ = false := by
    simp only [isInverted, Bool.or_eq_false_iff, Bool.and_eq_false_imp, decide_eq_false_iff_not]
    omega
  have hempty : isEmpty ⟨⟨n, c⟩, ⟨n, (c + shown.length : Nat)⟩⟩ = false := by
    rw [isEmpty, beq_eq_false_iff_ne]
    intro heq
    have := congrArg Position.character heq
    simp only at this hlt
    omega
  rw [Range.forEditor, clamp_natCast, clamp_natCast, hinverted, hempty]
  rfl

end Range

namespace Locate

/-- What the range for a struct, a field and a key shows. -/
inductive Located (t name field : Text) (key : Option Text) (r : Range) : Prop where
  /-- The empty range at the start of the text. -/
  | nowhere (hr : r = {})
  /-- The key, behind a gorm mark on a body line that the field name starts. -/
  | key {k line : Text} {b : BodyLine} {header headerColumn mark column : Nat}
      (hkey : key = some k)
      (hheader : structLine? name (lines t) = some (header, headerColumn))
      (hbody : b ∈ bodyLines header ((lines t).drop header)) (hlies : b.LiesIn (lines t) header)
      (hline : (lines t)[b.number]? = some line)
      (hfield : field <+: trim (line.drop b.offset))
      (hmark : b.offset ≤ mark ∧ Segment.mark <+: line.drop mark)
      (hcolumn : mark + Segment.mark.length ≤ column) (hr : r.Shows t b.number column k)
  /-- The field name, at the first character of a body line that is not blank. -/
  | field {line : Text} {b : BodyLine} {header headerColumn : Nat}
      (hheader : structLine? name (lines t) = some (header, headerColumn))
      (hbody : b ∈ bodyLines header ((lines t).drop header)) (hlies : b.LiesIn (lines t) header)
      (hline : (lines t)[b.number]? = some line)
      (hfield : field <+: trim (line.drop b.offset))
      (hr : r.Shows t b.number (b.offset + ((line.drop b.offset).takeWhile isBlank).length) field)
  /-- The struct name, on the line of its header. -/
  | name {header column : Nat} (hheader : structLine? name (lines t) = some (header, column))
      (hr : r.Shows t header column name)

variable {b : BodyLine} {header headerColumn : Nat}

/-- What starts a trimmed line stands behind its indent. -/
theorem findFrom?_of_prefix_trim (hne : field ≠ []) (h : field <+: trim (line.drop n)) :
    findFrom? field n line = some (n + ((line.drop n).takeWhile isBlank).length) := by
  have hrest : field <+: trimLeft (line.drop n) := h.trans (trimRight_isPrefix _)
  have hhead : ∀ c ∈ field.head?, isBlank c = false := by
    intro c hc
    obtain ⟨d, field, rfl⟩ := List.exists_cons_of_ne_nil hne
    obtain ⟨u, hu⟩ := hrest
    apply head?_dropWhile_eq_false isBlank (line.drop n)
    rw [← trimLeft, ← hu]
    exact hc
  exact findFrom?_of_blank hne (fun _ hc => List.all_eq_true.mp List.all_takeWhile _ hc) hhead
    List.takeWhile_append_dropWhile.symm hrest

theorem located_onFieldLine (hheader : structLine? name (lines t) = some (header, headerColumn))
    (hbody : b ∈ bodyLines header ((lines t).drop header)) (hne : field ≠ [])
    (hline : (lines t)[b.number]? = some line) (hfield : field <+: trim (line.drop b.offset)) :
    Located t name field key (onFieldLine b line field key) := by
  have hlies := liesIn_of_mem_bodyLines hbody
  rw [onFieldLine]
  split
  · rename_i column length hkey
    obtain ⟨k, rfl, hk⟩ := Option.bind_eq_some_iff.mp hkey
    split at hk
    · simp at hk
    · rename_i hknil
      obtain ⟨found, hfound, heq⟩ := Option.map_eq_some_iff.mp hk
      obtain ⟨rfl, rfl⟩ : found = column ∧ k.length = length := by simpa using heq
      obtain ⟨mark, hmark, hcolumn⟩ := Option.bind_eq_some_iff.mp hfound
      obtain ⟨hle, hshown⟩ := prefix_of_findFrom? hcolumn
      exact .key rfl hheader hbody hlies hline hfield (prefix_of_findFrom? hmark) hle
        (Range.shows_onLine hknil hline hshown)
  · have hcolumn := findFrom?_of_prefix_trim hne hfield
    have hshown := (prefix_of_findFrom? hcolumn).2
    rw [hcolumn]
    exact .field hheader hbody hlies hline hfield (Range.shows_onLine hne hline hshown)

/-- A key that stands behind a mark is found, behind the first mark. -/
theorem exists_keyColumn?_le {k : Text} {mark column : Nat} (hne : k ≠ [])
    (hmark : Segment.mark <+: line.drop mark) (hbehind : mark + Segment.mark.length ≤ column)
    (hkey : k <+: line.drop column) :
    ∃ m c, keyColumn? k line 0 = some c ∧ k <+: line.drop c ∧ Segment.mark <+: line.drop m
      ∧ m + Segment.mark.length ≤ c ∧ c ≤ column := by
  obtain ⟨m, hm, -, hle⟩ := exists_findFrom?_le (by decide) (Nat.zero_le mark) hmark
  have hbehind' : m + Segment.mark.length ≤ column := by omega
  obtain ⟨c, hc, hstart, hle⟩ := exists_findFrom?_le hne hbehind' hkey
  refine ⟨m, c, ?_, (prefix_of_findFrom? hc).2, (prefix_of_findFrom? hm).2, hstart, hle⟩
  rw [keyColumn?, hm]
  exact hc

theorem onFieldLine_of_keyColumn? {k : Text} {column : Nat} (hne : k ≠ [])
    (h : keyColumn? k line b.offset = some column) (field : Text) :
    onFieldLine b line field (some k) = .onLine b.number column k.length := by
  simp [onFieldLine, hne, h]

theorem mem_of_mem_searchOrder {body : List BodyLine} (h : b ∈ searchOrder body) : b ∈ body := by
  rw [searchOrder, List.mem_append, List.mem_filter, List.mem_filter] at h
  rcases h with h | h
  · exact h.1
  · exact h.1

theorem located_range (t name field : Text) (key : Option Text) :
    Located t name field key (range t name field key) := by
  rw [range]
  split
  · exact .nowhere rfl
  · rename_i hnonempty
    obtain ⟨-, hname⟩ := not_or.mp hnonempty
    simp only
    split
    · exact .nowhere rfl
    · rename_i header column hheader
      split
      · rename_i b hfound
        split at hfound
        · simp at hfound
        · rename_i hfield
          have hbody := mem_of_mem_searchOrder (List.mem_of_find?_eq_some hfound)
          obtain ⟨line, hline, hsegment⟩ := (liesIn_of_mem_bodyLines hbody).exists_line
          have hstarts := List.find?_some hfound
          rw [← hsegment, List.isPrefixOf_iff_prefix] at hstarts
          rw [List.getD_eq_getElem?_getD, hline, Option.getD_some]
          exact located_onFieldLine hheader hbody hfield hline hstarts
      · obtain ⟨line, hline, hshown⟩ := prefix_of_structLine? hname hheader
        exact .name hheader (Range.shows_onLine hname hline hshown)

theorem Located.forEditor {r : Range} (h : Located t name field key r) :
    r.forEditor = if r = {} then ⟨⟨0, 0⟩, ⟨0, 1⟩⟩ else r := by
  have hshown : ∀ {n c : Nat} {shown : Text}, r.Shows t n c shown →
      r.forEditor = if r = {} then ⟨⟨0, 0⟩, ⟨0, 1⟩⟩ else r := by
    intro n c shown hr
    have hne : r ≠ {} := by
      rintro rfl
      exact absurd hr.start_lt_stop (by decide)
    rw [if_neg hne]
    exact hr.forEditor
  cases h with
  | nowhere hr =>
    subst hr
    rfl
  | key hkey hheader hbody hlies hline hfield hmark hcolumn hr => exact hshown hr
  | field hheader hbody hlies hline hfield hr => exact hshown hr
  | name hheader hr => exact hshown hr

/-- Every range that a search gives points at real text, and an editor gets it as it is; only the
empty range at the start is widened. -/
theorem range_located (t name field : Text) (key : Option Text) :
    Located t name field key (range t name field key)
      ∧ (range t name field key).forEditor
        = if range t name field key = {} then ⟨⟨0, 0⟩, ⟨0, 1⟩⟩ else range t name field key :=
  ⟨located_range t name field key, (located_range t name field key).forEditor⟩

end Locate
end TagLint
