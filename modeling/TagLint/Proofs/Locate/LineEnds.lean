import TagLint.Proofs.Locate.Header
import TagLint.Proofs.Text.LineEnds

/-! Line ends of two characters: the same ranges are located. -/
namespace TagLint.Locate
open Text

variable {t name field l l' cs : Text} {ls ls' : List Text} {key : Option Text}
  {previous : Option Char} {number n : Nat} {depth : Int} {b : BodyLine}

/-! ## Headers -/

theorem headed_concat_iff : Headed name (cs ++ ['\r']) ↔ Headed name cs := by
  constructor
  · generalize hcs : cs ++ ['\r'] = t
    rintro ⟨hne₁, hne₂, h₁, h₂, hr⟩
    rename_i b₁ b₂ r
    rcases List.eq_nil_or_concat r with rfl | ⟨r, d, rfl⟩
    · -- The keyword does not end in a carriage return.
      have hlast : cs ++ ['\r'] = "type".toList ++ b₁ ++ name ++ b₂ ++ "struc".toList ++ ['t'] := by
        simpa using hcs
      exact absurd (List.append_inj' hlast rfl).2 (by decide)
    · have hsplit : cs ++ ['\r']
          = ("type".toList ++ (b₁ ++ (name ++ (b₂ ++ ("struct".toList ++ r))))) ++ [d] := by
        simpa using hcs
      rw [(List.append_inj' hsplit rfl).1]
      refine .mk hne₁ hne₂ h₁ h₂ ?_
      cases r with
      | nil => simp
      | cons c r => simpa using hr
  · rintro ⟨hne₁, hne₂, h₁, h₂, hr⟩
    rename_i b₁ b₂ r
    have hr' : ∀ c ∈ (r ++ ['\r']).head?, isWord c = false := by
      cases r with
      | nil => simp; decide
      | cons d r => exact hr
    simp only [List.append_assoc]
    exact .mk hne₁ hne₂ h₁ h₂ hr'

theorem headerColumn?_concat (name : Text) (previous : Option Char) (l : Text) :
    headerColumn? name previous (l ++ ['\r']) = headerColumn? name previous l := by
  induction l generalizing previous with
  | nil =>
    have hnone : ((after? "type" ['\r']).map (namedHere name)).getD false = false := rfl
    rw [List.nil_append, headerColumn?.eq_2, hnone, Bool.and_false, if_neg (by decide)]
    rfl
  | cons c l ih =>
    have hsame : ((after? "type" (c :: (l ++ ['\r']))).map (namedHere name)).getD false
        = ((after? "type" (c :: l)).map (namedHere name)).getD false := by
      rw [Bool.eq_iff_iff, headed_iff, headed_iff, ← List.cons_append, headed_concat_iff]
    rw [List.cons_append, headerColumn?, headerColumn?, hsame, ih]

theorem headerColumn?_of_sameLine (h : SameLine l l') (name : Text) (previous : Option Char) :
    headerColumn? name previous l' = headerColumn? name previous l := by
  rcases h with rfl | rfl
  · rfl
  · exact headerColumn?_concat name previous l

theorem structLine?_of_sameLine (hne : name ≠ []) (hname : '\r' ∉ name)
    (h : List.Forall₂ SameLine ls ls') : structLine? name ls' = structLine? name ls := by
  induction h with
  | nil => rfl
  | cons hline _ ih =>
    rw [structLine?, structLine?, headerColumn?_of_sameLine hline, ih]
    split
    · rw [hline.findFrom?_eq hne hname]
    · rfl

/-! ## Body lines -/

/-- A body line as the search sees it. -/
def BodyLine.trimmed (b : BodyLine) : BodyLine := { b with segment := trim b.segment }

theorem bodyLinesFrom_of_sameLine (h : List.Forall₂ SameLine ls ls') (number : Nat) (depth : Int) :
    (bodyLinesFrom number depth ls').map BodyLine.trimmed
      = (bodyLinesFrom number depth ls).map BodyLine.trimmed := by
  induction h generalizing number depth with
  | nil => rfl
  | cons hline _ ih =>
    rw [bodyLinesFrom, bodyLinesFrom, hline.trim_eq, Brace.delta_of_sameLine hline]
    split
    · rfl
    · simp only [List.map_cons, ih, BodyLine.trimmed, hline.trim_eq]

theorem findIdx?_brace_concat (l : Text) :
    (l ++ ['\r']).findIdx? (· == '{') = l.findIdx? (· == '{') := by
  simp [List.findIdx?_append, List.findIdx?_cons]

theorem bodyLines_of_sameLine (h : List.Forall₂ SameLine ls ls') (number : Nat) :
    (bodyLines number ls').map BodyLine.trimmed = (bodyLines number ls).map BodyLine.trimmed := by
  cases h with
  | nil => rfl
  | cons hline hlines =>
    rename_i l l' ls ls'
    have hbrace : l'.findIdx? (· == '{') = l.findIdx? (· == '{') := by
      rcases hline with rfl | rfl
      · rfl
      · exact findIdx?_brace_concat l
    rw [bodyLines, bodyLines, hbrace]
    cases hidx : l.findIdx? (· == '{') with
    | none => rfl
    | some i =>
      obtain ⟨hlt, -⟩ := List.findIdx?_eq_some_iff_getElem.mp hidx
      have hrest : SameLine (l.drop (i + 1)) (l'.drop (i + 1)) := by
        rcases hline with rfl | rfl
        · exact .inl rfl
        · exact .inr (List.drop_append_of_le_length hlt)
      simp only [List.map_cons, BodyLine.trimmed, hrest.trim_eq, Brace.delta_of_sameLine hrest,
        bodyLinesFrom_of_sameLine hlines]

theorem map_trimmed_fieldLine? (field : Text) (body : List BodyLine) :
    (fieldLine? field body).map BodyLine.trimmed
      = (searchOrder (body.map BodyLine.trimmed)).find? fun b => field.isPrefixOf b.segment := by
  rw [fieldLine?, searchOrder, searchOrder, List.filter_map, List.filter_map, ← List.map_append,
    List.find?_map]
  rfl

theorem fieldLine?_of_map_trimmed {body body' : List BodyLine}
    (h : body'.map BodyLine.trimmed = body.map BodyLine.trimmed) (field : Text) :
    (fieldLine? field body').map BodyLine.trimmed
      = (fieldLine? field body).map BodyLine.trimmed := by
  rw [map_trimmed_fieldLine?, map_trimmed_fieldLine?, h]

theorem onFieldLine_of_sameLine (h : SameLine l l') (hne : field ≠ []) (hfield : '\r' ∉ field)
    (hkey : ∀ k ∈ key, '\r' ∉ k) (b : BodyLine) :
    onFieldLine b l' field key = onFieldLine b l field key := by
  have hmark : Segment.mark ≠ [] := by decide
  have hreturn : '\r' ∉ Segment.mark := by decide
  have hcolumn : ∀ k, key = some k → k ≠ [] →
      keyColumn? k l' b.offset = keyColumn? k l b.offset := by
    rintro k hk hkne
    simp only [keyColumn?, h.findFrom?_eq hmark hreturn, h.findFrom?_eq hkne (hkey k hk)]
  have hfound :
      (key.bind fun k => if k = [] then none else (keyColumn? k l' b.offset).map (·, k.length))
      = key.bind fun k => if k = [] then none else (keyColumn? k l b.offset).map (·, k.length) := by
    cases key with
    | none => rfl
    | some k =>
      simp only [Option.bind_some]
      split
      · rfl
      · rw [hcolumn k rfl ‹_›]
  rw [onFieldLine, onFieldLine, hfound, h.findFrom?_eq hne hfield]

theorem sameLine_getD (h : List.Forall₂ SameLine ls ls') (n : Nat) :
    SameLine (ls.getD n []) (ls'.getD n []) := by
  induction h generalizing n with
  | nil => exact .inl rfl
  | cons hline _ ih =>
    cases n with
    | zero => exact hline
    | succ n => exact ih n

/-- Of a body line, the range reads the number and the offset alone. -/
theorem onFieldLine_of_trimmed {b' : BodyLine} (h : b'.trimmed = b.trimmed) :
    b'.number = b.number ∧ onFieldLine b' = onFieldLine b := by
  obtain ⟨number, offset, segment, depth⟩ := b
  obtain ⟨number', offset', segment', depth'⟩ := b'
  simp only [BodyLine.trimmed, BodyLine.mk.injEq] at h
  obtain ⟨rfl, rfl, -, -⟩ := h
  exact ⟨rfl, rfl⟩

/-- A located range is the same for both line ends. -/
theorem range_crlf (hname : '\r' ∉ name) (hfield : '\r' ∉ field) (hkey : ∀ k ∈ key, '\r' ∉ k)
    (t : Text) :
    range (crlf t) name field key = range t name field key := by
  have hlines := lines_crlf t
  by_cases hne : t = [] ∨ name = []
  · rw [range, range, if_pos hne, if_pos (by rwa [crlf_eq_nil_iff])]
  · obtain ⟨ht, hname'⟩ := not_or.mp hne
    have ht' : crlf t ≠ [] := fun h => ht (crlf_eq_nil_iff.mp h)
    have hheader := structLine?_of_sameLine hname' hname hlines
    cases h : structLine? name (lines t) with
    | none => simp [range, hheader, h]
    | some found =>
      obtain ⟨number, column⟩ := found
      by_cases hfne : field = []
      · simp [range, hheader, h, hfne]
      · have hbody := bodyLines_of_sameLine (List.forall₂_drop number hlines) number
        have hfound := fieldLine?_of_map_trimmed hbody field
        rw [range_of_structLine? ht' hname' hfne (hheader.trans h),
          range_of_structLine? ht hname' hfne h]
        cases hb : fieldLine? field (bodyLines number ((lines t).drop number)) with
        | none =>
          rw [hb, Option.map_none, Option.map_eq_none_iff] at hfound
          rw [hfound]
        | some b =>
          rw [hb] at hfound
          obtain ⟨b', hb', htrimmed⟩ := Option.map_eq_some_iff.mp hfound
          obtain ⟨hnumber, hsame⟩ := onFieldLine_of_trimmed htrimmed
          rw [hb']
          simp only [hsame, hnumber]
          exact onFieldLine_of_sameLine (sameLine_getD hlines b.number) hfne hfield hkey b

end TagLint.Locate
