import TagLint.Proofs.Locate.Agreement

/-! Fields that share one line: the first of them is located at its key, the others are not. -/
namespace TagLint
open Text

namespace Source

/-! ## Structs without groups -/

def Block.ofLines : List (Indent × Line) → Block
  | [] => .nil
  | (i, l) :: ls => .line i l (ofLines ls)

theorem lines_ofLines (ls : List (Indent × Line)) : (Block.ofLines ls).lines = ls.map lineText := by
  induction ls with
  | nil => rfl
  | cons p ls ih => rw [Block.ofLines, Block.lines, ih]; rfl

theorem fields_ofLines (ls : List (Indent × Line)) :
    (Block.ofLines ls).fields = ls.flatMap (·.2.fields) := by
  induction ls with
  | nil => rfl
  | cons p ls ih => rw [Block.ofLines, Block.fields, ih]; rfl

/-- A line that declares one name or more, with a tag. -/
structure SharedLine where
  indent : Indent := {}
  first : Word
  more : List Word
  pad : Indent := {}
  type : TypeName
  tagPad : Indent := {}
  tag : RawTag
  note : Option Note := none

def SharedLine.line (l : SharedLine) : Indent × Line :=
  (l.indent, .decl (.named l.first l.more l.pad l.type) (.tagged l.tagPad l.tag l.note))

def SharedLine.names (l : SharedLine) : List Word := l.first :: l.more

/-- A text with a struct that has no groups and holds such a line. No header for the name of the
struct stands above it, and none of its fields is named by the start of the name of another one. -/
structure SharingText where
  above : Text := []
  indent : Indent := {}
  name : Word
  before : List (Indent × Line) := []
  shared : SharedLine
  after : List (Indent × Line) := []
  closeIndent : Indent := {}
  below : Text := []
  clear : Locate.Clear name above
  endsLine : above = [] ∨ above.getLast? = some '\n'
  apart : (Block.ofLines (before ++ shared.line :: after)).fields.Pairwise fun f g =>
    ¬ f.name <+: g.name ∧ ¬ g.name <+: f.name

namespace SharingText

def body (t : SharingText) : Block := .ofLines (t.before ++ t.shared.line :: t.after)

def struct (t : SharingText) : Struct := ⟨t.indent, t.name, t.body, t.closeIndent⟩

def text (t : SharingText) : Text := t.above ++ (t.struct.text ++ t.below)

/-- The number of the shared line. -/
def lineNumber (t : SharingText) : Nat := t.above.count '\n' + 1 + t.before.length

variable {t : SharingText} {w : Word} {k : Text}

theorem fields_eq (t : SharingText) :
    t.body.fields = t.before.flatMap (·.2.fields)
      ++ (t.shared.names.map
        (fun n => (⟨n.text, t.shared.type.text, t.shared.tag.text⟩ : FieldDecl))
        ++ t.after.flatMap (·.2.fields)) := by
  rw [body, fields_ofLines, List.flatMap_append, List.flatMap_cons]
  rfl

theorem not_prefix_of_before (t : SharingText) {f : FieldDecl} {x : Indent × Line}
    (hx : x ∈ t.before) (hf : f ∈ x.2.fields) (hw : w ∈ t.shared.names) : ¬ w.text <+: f.name := by
  have hapart := t.apart
  rw [← body, fields_eq, List.pairwise_append] at hapart
  have hall := hapart.2.2 f (List.mem_flatMap.mpr ⟨x, hx, hf⟩) ⟨w.text, _, _⟩
    (List.mem_append_left _ (List.mem_map.mpr ⟨w, hw, rfl⟩))
  exact hall.2

theorem not_prefix_of_more (t : SharingText) (hw : w ∈ t.shared.more) :
    ¬ w.text <+: t.shared.first.text := by
  have hapart := t.apart
  rw [← body, fields_eq, List.pairwise_append] at hapart
  have hnames := (List.pairwise_append.mp hapart.2.1).1
  rw [SharedLine.names, List.map_cons, List.pairwise_cons] at hnames
  exact (hnames.1 _ (List.mem_map.mpr ⟨w, hw, rfl⟩)).2

end SharingText
end Source

namespace Locate
open Source

variable {t : SharingText} {w : Word} {k : Text} {v : Vocabulary} {e : TagEntry}

theorem apart_nil : ([] : List FlatField).Pairwise fun f f' => ¬ f'.name.text <+: f.name.text :=
  .nil

/-- The header of the struct without its body. -/
def heading (t : SharingText) : FlatStruct where
  indent := t.indent
  name := t.name
  fields := []
  closeIndent := t.closeIndent
  apart := apart_nil

theorem text_eq (t : SharingText) :
    t.text = t.above ++ ((heading t).opening
      ++ '\n' :: (unlines (t.body.lines) ++ (t.closeIndent.text ++ '}' :: t.below))) := by
  have hopening : (heading t).opening = t.indent.text ++ t.struct.header := rfl
  rw [SharingText.text, Struct.text, Struct.inside, hopening]
  simp [SharingText.struct]

theorem exists_lines (t : SharingText) :
    ∃ ls column, ls.length = t.above.count '\n'
      ∧ lines t.text = ls ++ ((heading t).stem ++ ['{']) :: ((t.before.map lineText
        ++ lineText t.shared.line :: t.after.map lineText)
          ++ lines (t.closeIndent.text ++ '}' :: t.below))
      ∧ structLine? t.name.text (lines t.text) = some (ls.length, column) := by
  obtain ⟨ls, hls, habove⟩ := exists_unlines t.endsLine
  have hclear : ∀ l ∈ ls, Clear t.name l := by
    have hall := t.clear
    rw [habove, ← List.append_nil (unlines ls)] at hall
    exact fun l hl => clear_of_mem_lines hall hl
  have hbody := lines_unlines (newline_not_mem_lines t.body) (t.closeIndent.text ++ '}' :: t.below)
  obtain ⟨hlines, column, hfound⟩ :=
    structLine?_opening (heading t) (p := []) hls hclear rfl List.not_mem_nil
      (unlines t.body.lines ++ (t.closeIndent.text ++ '}' :: t.below))
  rw [List.nil_append, ← habove, ← text_eq, hbody, List.nil_append] at hlines
  rw [List.nil_append, hbody, ← hlines] at hfound
  refine ⟨ls, column, ?_, ?_, hfound⟩
  · rw [habove, count_unlines hls]
  · rw [hlines, FlatStruct.opening_eq, SharingText.body, lines_ofLines, List.map_append,
      List.map_cons]

/-- The line of the first name, and where the tag stands on it. -/
theorem exists_lineText (l : SharedLine) : ∃ u z, lineText l.line = u ++ (l.tag.text ++ z) := by
  refine ⟨l.indent.text ++ (Decl.named l.first l.more l.pad l.type).text ++ l.tagPad.text
    ++ [backtick], backtick :: noteText l.note, ?_⟩
  simp [lineText, SharedLine.line, Line.text, Ending.text]

/-- A key of the tag is found on the line. -/
theorem exists_keyColumn?_shared (l : SharedLine) (hk : KeyIn (Segment.decode l.tag.text) k) :
    ∃ column, keyColumn? k (lineText l.line) 0 = some column ∧
    k <+: (lineText l.line).drop column := by
  obtain ⟨u, z, hline⟩ := exists_lineText l
  obtain ⟨a, b, hraw, x, y, rfl⟩ := Segment.exists_behind_mark hk
  have hmark : Segment.mark <+: (lineText l.line).drop (u ++ a).length := by
    rw [hline, hraw]
    simp
  have hkey : k <+: (lineText l.line).drop (u ++ (a ++ (Segment.mark ++ x))).length := by
    rw [hline, hraw]
    simp
  obtain ⟨-, column, hcolumn, hshown, -⟩ :=
    exists_keyColumn?_le hk.ne_nil hmark (by simp; omega) hkey
  exact ⟨column, hcolumn, hshown⟩

theorem line_of_lineNumber (t : SharingText) :
    (lines t.text)[t.lineNumber]? = some (lineText t.shared.line) := by
  obtain ⟨ls, -, hlen, hlines, -⟩ := exists_lines t
  have hnumber : t.lineNumber = ls.length + (1 + t.before.length) := by
    rw [SharingText.lineNumber, hlen]
    omega
  rw [hlines, hnumber, List.getElem?_append_right (by omega), Nat.add_sub_cancel_left,
    Nat.add_comm 1, List.getElem?_cons_succ, List.append_assoc,
    List.getElem?_append_right (by simp), List.length_map, Nat.sub_self]
  rfl

theorem first_starts (t : SharingText) : t.shared.first.text <+: trim (lineText t.shared.line) :=
  (prefix_trim_named_iff t.shared.first.isWord _ _).mpr List.prefix_rfl

/-- No line above the shared one starts with its first name. -/
theorem fieldLine?_first (t : SharingText) {header column : Nat}
    (hheader : structLine? t.name.text (lines t.text) = some (header, column)) :
    fieldLine? t.shared.first.text (bodyLines header ((lines t.text).drop header))
      = some ⟨t.lineNumber, 0, lineText t.shared.line, 1⟩ := by
  obtain ⟨ls, c, hlen, hlines, hfound⟩ := exists_lines t
  obtain ⟨rfl, -⟩ : ls.length = header ∧ c = column := by simpa [hfound] using hheader
  have hdrop : (lines t.text).drop ls.length = ((heading t).stem ++ ['{'])
      :: (t.before.map lineText ++ lineText t.shared.line
        :: (t.after.map lineText ++ lines (t.closeIndent.text ++ '}' :: t.below))) := by
    rw [hlines, List.drop_left, List.append_assoc]
    rfl
  have habove : ∀ y ∈ t.before, ¬ t.shared.first.text <+: trim (lineText y) := by
    intro y hy hstarts
    obtain ⟨f, hf, hprefix⟩ :=
      exists_field_of_prefix t.shared.first.ne_nil t.shared.first.isWord hstarts
    exact t.not_prefix_of_before hy hf List.mem_cons_self hprefix
  have hempty : ¬ t.shared.first.text <+: trim [] :=
    fun hin => t.shared.first.ne_nil (List.prefix_nil.mp hin)
  rw [hdrop, bodyLines_header (heading t).brace_not_mem_stem, fieldLine?_cons rfl, if_neg hempty,
    fieldLine?_lines habove (first_starts t), SharingText.lineNumber, hlen]

/-- The first name is located at the key. -/
theorem shows_first (t : SharingText) (hk : KeyIn (Segment.decode t.shared.tag.text) k) :
    ∃ column, (range t.text t.name.text t.shared.first.text (some k)).Shows t.text t.lineNumber
      column k := by
  obtain ⟨ls, c, -, -, hheader⟩ := exists_lines t
  have hline := line_of_lineNumber t
  have hne : t.text ≠ [] := by
    intro hnil
    rw [hnil, SharingText.lineNumber] at hline
    simp [lines, split, Nat.add_right_comm] at hline
  obtain ⟨column, hcolumn, hshown⟩ := exists_keyColumn?_shared t.shared hk
  refine ⟨column, ?_⟩
  rw [range_of_structLine? hne t.name.ne_nil t.shared.first.ne_nil hheader,
    fieldLine?_first t hheader]
  simp only [List.getD_eq_getElem?_getD, hline, Option.getD_some]
  rw [onFieldLine_of_keyColumn? hk.ne_nil hcolumn]
  exact Range.shows_onLine hk.ne_nil hline hshown

/-- Any other name is located elsewhere, for the line does not start with it. -/
theorem line_ne_of_more (t : SharingText) (hw : w ∈ t.shared.more) (key : Option Text) :
    (range t.text t.name.text w.text key).start.line ≠ t.lineNumber := by
  obtain ⟨ls, c, hlen, -, hfound⟩ := exists_lines t
  have hpos : t.lineNumber ≠ 0 := by
    rw [SharingText.lineNumber]
    omega
  have hheader : ∀ {header column : Nat},
      structLine? t.name.text (lines t.text) = some (header, column) →
      header < t.lineNumber := by
    intro header column h
    obtain ⟨rfl, -⟩ : ls.length = header ∧ c = column := by simpa [hfound] using h
    rw [SharingText.lineNumber, hlen]
    omega
  have hbody : ∀ {b : BodyLine} {line : Text} {header : Nat}, b.LiesIn (lines t.text) header →
      header < t.lineNumber → (lines t.text)[b.number]? = some line →
      w.text <+: trim (line.drop b.offset) → b.number ≠ t.lineNumber := by
    intro b line header hlies hlt hline hfield hnumber
    rw [hnumber, line_of_lineNumber t] at hline
    cases hline
    cases hlies with
    | rest hrest => omega
    | below _ hoffset =>
      rw [hoffset, List.drop_zero] at hfield
      exact t.not_prefix_of_more hw ((prefix_trim_named_iff w.isWord _ _).mp hfield)
  intro hline
  cases located_range t.text t.name.text w.text key with
  | nowhere hr =>
    rw [hr] at hline
    exact hpos (Int.ofNat.inj hline).symm
  | key _ hstruct _ hlies hat hfield _ _ hr =>
    rw [hr.start] at hline
    exact hbody hlies (hheader hstruct) hat hfield (Int.ofNat.inj hline)
  | field hstruct _ hlies hat hfield hr =>
    rw [hr.start] at hline
    exact hbody hlies (hheader hstruct) hat hfield (Int.ofNat.inj hline)
  | name hstruct hr =>
    rw [hr.start] at hline
    exact absurd (Int.ofNat.inj hline) (Nat.ne_of_lt (hheader hstruct))

/-- Of the fields that share a line, the first is located at the key and no other one is, so they
are located alike only where the line declares a single name. -/
theorem range_shared_iff (t : SharingText)
    (he : e ∈ TagEntry.ofSegment v (Segment.decode t.shared.tag.text)) :
    (∃ column,
      (range t.text t.name.text t.shared.first.text (some e.token)).Shows t.text t.lineNumber column
        e.token)
      ∧ (∀ w ∈ t.shared.more,
        (range t.text t.name.text w.text (some e.token)).start.line ≠ t.lineNumber)
      ∧ ((∃ r, ∀ w ∈ t.shared.names, range t.text t.name.text w.text (some e.token) = r
          ∧ r.slice t.text = e.token) ↔ t.shared.more = []) := by
  obtain ⟨column, hshows⟩ := shows_first t (TagEntry.keyIn_of_mem_ofSegment he)
  have hmore : ∀ w ∈ t.shared.more, _ := fun w hw => line_ne_of_more t hw (some e.token)
  refine ⟨⟨column, hshows⟩, hmore, ?_, ?_⟩
  · rintro ⟨r, hall⟩
    refine List.eq_nil_iff_forall_not_mem.mpr fun w hw => hmore w hw ?_
    have hfirst := (hall t.shared.first List.mem_cons_self).1
    have hother := (hall w (List.mem_cons_of_mem _ hw)).1
    rw [hother, ← hfirst, hshows.start]
  · intro hnil
    refine ⟨range t.text t.name.text t.shared.first.text (some e.token), fun w hw => ?_⟩
    obtain rfl : w = t.shared.first := by simpa [SharedLine.names, hnil] using hw
    exact ⟨rfl, hshows.slice⟩

theorem blank_nil : ∀ c ∈ ([] : Text), c = ' ' ∨ c = '\t' := List.forall_mem_nil _

def flush : Indent := ⟨[], blank_nil⟩

/-- Two names before one type. -/
def sharedPair : SharingText where
  above := "package p\n".toList
  indent := flush
  name := { text := "Pair".toList }
  shared := {
    indent := { text := ['\t'] }
    first := { text := "Left".toList }
    more := [{ text := "Right".toList }]
    pad := flush
    type := { text := "string".toList }
    tagPad := { text := ['\t'] }
    tag := { text := "gorm:\"size:64\"".toList } }
  closeIndent := flush
  clear := clear_of_noType (by decide +kernel)
  endsLine := .inr (by decide)
  apart := by decide

theorem range_shared_iff_sharedPair :
    ∃ e ∈ TagEntry.ofSegment {} (Segment.decode sharedPair.shared.tag.text), e.token = "size".toList
      ∧ (∃ column, (range sharedPair.text "Pair".toList "Left".toList (some e.token)).Shows
        sharedPair.text 2 column e.token)
      ∧ (range sharedPair.text "Pair".toList "Right".toList (some e.token)).start.line ≠ 2
      ∧ ¬ ∃ r, ∀ w ∈ sharedPair.shared.names,
        range sharedPair.text "Pair".toList w.text (some e.token) = r
        ∧ r.slice sharedPair.text = e.token := by
  obtain ⟨e, he, hkey⟩ : ∃ e ∈ TagEntry.ofSegment {} (Segment.decode sharedPair.shared.tag.text),
      e.token = "size".toList := by decide +kernel
  obtain ⟨hfirst, hmore, halike⟩ := range_shared_iff sharedPair he
  exact ⟨e, he, hkey, hfirst, hmore _ List.mem_cons_self, fun h =>
    List.cons_ne_nil _ _ (halike.mp h)⟩

/-- The second name is located at the name of the struct. -/
theorem range_second_name :
    sharedPair.text
      = "package p\ntype Pair struct \x7b\n\tLeft, Right string\t`gorm:\"size:64\"`\n\x7d".toList
      ∧ range sharedPair.text "Pair".toList "Left".toList (some "size".toList) = .onLine 2 27 4
      ∧ range sharedPair.text "Pair".toList "Right".toList (some "size".toList) = .onLine 1 5 4
      ∧ (Range.onLine 1 5 4).slice sharedPair.text = "Pair".toList := by
  decide +kernel

end Locate
end TagLint
