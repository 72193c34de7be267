import TagLint.Proofs.Struct.SourceLines

/-! The fields of a printed declaration. -/
namespace TagLint
open Text

variable {cs r t w : Text} {ws : List Text} {c : Char}

namespace FieldLine

/-! ## Names -/

theorem names?_of_not_comma (h : ∀ c ∈ (trimLeft (cs.dropWhile isWord)).head?, c ≠ ',') :
    names? cs
      = if cs.takeWhile isWord = [] then none
        else some ([cs.takeWhile isWord], cs.dropWhile isWord) := by
  rw [names?]
  split
  · rfl
  · split
    · rename_i more hmore
      rw [hmore] at h
      exact absurd rfl (h ',' rfl)
    · rfl

theorem names?_comma (hne : w ≠ []) (hw : ∀ c ∈ w, isWord c)
    (ht : ∀ c ∈ t.head?, isBlank c = false) (h : names? t = some (ws, r)) :
    names? (w ++ ", ".toList ++ t) = some (w :: ws, r) := by
  have hcomma : ∀ c ∈ (", ".toList ++ t).head?, isWord c = false := by
    simp; decide
  have hmore : trimLeft (", ".toList ++ t) = ',' :: ' ' :: t := trimLeft_cons (by decide) _
  have hnext : trimLeft (' ' :: t) = t := by
    rw [← List.singleton_append, trimLeft_append_of_blank (by decide), trimLeft_of_head? ht]
  rw [names?, List.append_assoc, takeWhile_append_of_stop hw hcomma,
    dropWhile_append_of_stop hw hcomma, if_neg hne]
  split
  · rename_i more hm
    obtain rfl : ' ' :: t = more := by
      rw [hmore] at hm
      exact (List.cons.inj hm).2
    rw [hnext, h]
  · rename_i hnone
    exact absurd hmore (hnone _)

/-- Names that no type follows make no declaration. -/
theorem declaration?_eq_none (hcomma : ∀ c ∈ (trimLeft (cs.dropWhile isWord)).head?, c ≠ ',')
    (htype : ∀ t, afterBlanks? (cs.dropWhile isWord) = some t →
      ∀ c ∈ t.head?, isTypeChar c = false) : declaration? cs = none := by
  rw [declaration?, names?_of_not_comma hcomma]
  split
  · rfl
  · simp only [Option.bind_eq_bind, Option.bind_some]
    cases htail : afterBlanks? (cs.dropWhile isWord) with
    | none => rfl
    | some t =>
      have hempty : t.takeWhile isTypeChar = [] :=
        takeWhile_append_of_stop (a := []) (by simp) (htype t htail)
      rw [Option.bind_some, hempty]
      rfl

theorem declaration?_of_head (h : cs.dropWhile isWord = c :: r) (hblank : isBlank c = false)
    (hcomma : c ≠ ',') : declaration? cs = none := by
  have hhead : ∀ x ∈ (c :: r).head?, isBlank x = false := by simpa using hblank
  apply declaration?_eq_none <;> rw [h]
  · rw [trimLeft_of_head? hhead]
    simpa using hcomma
  · rw [afterBlanks?_eq_none hhead]
    simp

theorem declaration?_of_tag (h : ∀ c ∈ (trimLeft (cs.dropWhile isWord)).head?, c = backtick) :
    declaration? cs = none := by
  apply declaration?_eq_none
  · rintro c hc rfl
    exact absurd (h ',' hc) (by decide)
  · intro t ht c hc
    obtain ⟨-, rfl⟩ : _ ∧ trimLeft (cs.dropWhile isWord) = t := by simpa [afterBlanks?] using ht
    rw [h c hc]
    decide

theorem embedded?_of_head (h : ∀ r, cs ≠ '*' :: r) :
    embedded? cs
      = if cs.takeWhile isPathChar = [] then none
        else some (cs.takeWhile isPathChar, cs.dropWhile isPathChar) := by
  cases cs with
  | nil => rfl
  | cons c cs => simp [embedded?]

end FieldLine

namespace Source

/-! ## Endings -/

/-- What the ending of a line is to a declaration: a comment is cut off where it can be. -/
def Ending.declared (e : Ending) : Text :=
  match e with
  | bare _ _ => []
  | tagged _ _ _ => e.text

theorem Ending.head?_declared (e : Ending) :
    ∀ c ∈ e.declared.head?, FieldLine.isTypeChar c = false := by
  cases e with
  | bare note h => simp [declared]
  | tagged pad tag note =>
    rw [declared, Ending.text, List.append_assoc]
    cases hpad : pad.text with
    | nil => simp; decide
    | cons c cs =>
      rcases pad.blank c (by rw [hpad]; exact List.mem_cons_self) with rfl | rfl
      · simp; decide
      · simp; decide

theorem Ending.trimLeft_declared (e : Ending) :
    ∀ c ∈ (trimLeft e.declared).head?, c = backtick := by
  cases e with
  | bare note h => simp [declared, trimLeft]
  | tagged pad tag note =>
    rw [declared, Ending.text, List.append_assoc, trimLeft_append_of_blank pad.isBlank,
      List.cons_append, trimLeft_cons (by decide)]
    simp

theorem tag?_tagged (pad : Indent) (tag : RawTag) (note : Option Note) :
    FieldLine.tag? (Ending.tagged pad tag note).text = some tag.text := by
  have hend := findIdx?_append_cons tag.backtick (noteText note)
  rw [FieldLine.tag?, Ending.text, List.append_assoc, trimLeft_append_of_blank pad.isBlank,
    List.cons_append, trimLeft_cons (by decide)]
  simp [hend]

theorem tag?_noteText (note : Option Note) : FieldLine.tag? (noteText note) = none := by
  cases note with
  | none => rfl
  | some n =>
    have htrim : trimLeft (noteText (some n)) = '/' :: '/' :: n.text := by
      rw [noteText, show " //".toList = [' '] ++ "//".toList from rfl, List.append_assoc,
        trimLeft_append_of_blank (by decide)]
      exact trimLeft_cons (by decide) _
    rw [FieldLine.tag?, htrim]
    exact if_neg (by decide)

theorem Ending.getD_tag? (e : Ending) : (FieldLine.tag? e.text).getD [] = e.tag := by
  cases e with
  | bare note h => rw [Ending.text, tag?_noteText]; rfl
  | tagged pad tag note => rw [tag?_tagged]; rfl

theorem Ending.ending?_declared (e : Ending) : FieldLine.ending? e.declared = some e.tag := by
  cases e with
  | bare note h => rfl
  | tagged pad tag note => rw [FieldLine.ending?, declared, tag?_tagged]; rfl

theorem declarationPart_printed (d : Decl) (e : Ending) :
    FieldLine.declarationPart (d.text ++ e.text) = d.text ++ e.declared := by
  cases e with
  | bare note h =>
    have hline : backtick ∉ d.text := not_mem_of_class d.solid.plain (by decide)
    have hnote : backtick ∉ noteText note := by
      cases note with
      | none => simp [noteText]
      | some n => simpa [noteText, backtick] using h n rfl
    obtain ⟨r, hr, hcode⟩ := noteText_eq_code note
    have hbefore := hcode d.text (not_mem_of_class d.solid.plain (by decide))
    rw [Brace.withoutRaw_of_not_mem hnote] at hbefore
    rw [FieldLine.declarationPart, if_neg (by simp [Ending.text, hline, hnote]), Ending.text,
      hbefore, trimRight_append d.solid.last, trimRight_eq_nil hr]
    rfl
  | tagged pad tag note =>
    rw [FieldLine.declarationPart, if_pos (by simp [Ending.text])]
    rfl

/-! ## Declarations -/

theorem names?_names (first : Word) (more : List Word) (hr : ∀ c ∈ r.head?, isWord c = false)
    (hcomma : ∀ c ∈ (trimLeft r).head?, c ≠ ',') :
    FieldLine.names? (Decl.names first more ++ r) = some ((first :: more).map Word.text, r) := by
  induction more generalizing first with
  | nil =>
    have hdrop := dropWhile_append_of_stop first.isWord hr
    rw [Decl.names, List.map_cons, List.map_nil, join,
      FieldLine.names?_of_not_comma (by rwa [hdrop]), hdrop,
      takeWhile_append_of_stop first.isWord hr, if_neg first.ne_nil]
  | cons w more ih =>
    have hnext := ih w
    obtain ⟨s, hs⟩ := names_eq_append w more
    have hhead : ∀ c ∈ (Decl.names w more ++ r).head?, isBlank c = false := by
      rw [hs, List.append_assoc]
      exact w.head _
    have hjoin : Decl.names first (w :: more) ++ r
        = first.text ++ ", ".toList ++ (Decl.names w more ++ r) := by
      simp [Decl.names, join]
    rw [hjoin, FieldLine.names?_comma first.ne_nil first.isWord hhead hnext]
    rfl

theorem declaration?_named (first : Word) (more : List Word) (pad : Indent) (type : TypeName)
    (e : Ending) :
    FieldLine.declaration? ((Decl.named first more pad type).text ++ e.declared)
      = some ((first :: more).map Word.text, type.text, e.declared) := by
  have htype : ∀ c ∈ (type.text ++ e.declared).head?, isBlank c = false :=
    head?_append_of_ne_nil type.ne_nil (fun c hc => isTypeChar_isBlank (type.isTypeChar c hc)) _
  have hpad : ∀ c ∈ ' ' :: pad.text, isBlank c := by
    intro c hc
    rcases List.mem_cons.mp hc with rfl | hc
    · decide
    · exact pad.isBlank c hc
  have htext : (Decl.named first more pad type).text ++ e.declared
      = Decl.names first more ++ ((' ' :: pad.text) ++ (type.text ++ e.declared)) := by
    simp [Decl.text]
  have htrim : trimLeft ((' ' :: pad.text) ++ (type.text ++ e.declared))
      = type.text ++ e.declared := by
    rw [trimLeft_append_of_blank hpad, trimLeft_of_head? htype]
  have hnames := names?_names first more (r := (' ' :: pad.text) ++ (type.text ++ e.declared))
    (by simp; decide) (by
      rw [htrim]
      refine head?_append_of_ne_nil (P := (· ≠ ',')) type.ne_nil ?_ _
      rintro c hc rfl
      exact absurd (type.isTypeChar ',' hc) (by decide))
  rw [htext, FieldLine.declaration?, hnames]
  simp only [Option.bind_eq_bind, Option.bind_some]
  rw [afterBlanks?_append (by simp) hpad htype, Option.bind_some,
    takeWhile_append_of_stop type.isTypeChar e.head?_declared,
    dropWhile_append_of_stop type.isTypeChar e.head?_declared, if_neg type.ne_nil]

theorem dropWhile_isWord_path (path : Dotted) (e : Ending) :
    (path.text ++ e.declared).dropWhile isWord = e.declared
      ∨ ∃ r, (path.text ++ e.declared).dropWhile isWord = '.' :: r := by
  have hsplit := List.takeWhile_append_dropWhile (p := isWord) (l := path.text)
  cases hrest : path.text.dropWhile isWord with
  | nil =>
    left
    rw [hrest, List.append_nil] at hsplit
    apply dropWhile_append_of_stop
    · rw [← hsplit]
      exact fun c hc => List.all_eq_true.mp List.all_takeWhile c hc
    · intro c hc
      have := e.head?_declared c hc
      simp_all [FieldLine.isTypeChar]
  | cons c r =>
    right
    have hword : isWord c = false :=
      head?_dropWhile_eq_false isWord path.text c (by rw [hrest]; rfl)
    have hmem : c ∈ path.text := by
      rw [← hsplit, hrest]
      simp
    obtain rfl : c = '.' := by
      have := path.isPathChar c hmem
      simp_all [FieldLine.isPathChar]
    refine ⟨r ++ e.declared, ?_⟩
    rw [List.dropWhile_append, hrest]
    rfl

/-- The name of an embedded type is not followed by another type. -/
theorem declaration?_embedded (pointer : Bool) (path : Dotted) (e : Ending) :
    FieldLine.declaration? ((Decl.embedded pointer path).text ++ e.declared) = none := by
  cases pointer with
  | true => exact FieldLine.declaration?_of_head (c := '*') rfl (by decide) (by decide)
  | false =>
    rcases dropWhile_isWord_path path e with hrest | ⟨r, hrest⟩
    · apply FieldLine.declaration?_of_tag
      rw [Decl.text, star, if_neg (by decide), List.nil_append, hrest]
      exact e.trimLeft_declared
    · exact FieldLine.declaration?_of_head hrest (by decide) (by decide)

theorem embedded?_embedded (pointer : Bool) (path : Dotted) (e : Ending) :
    FieldLine.embedded? ((Decl.embedded pointer path).text ++ e.declared)
      = some (star pointer ++ path.text, e.declared) := by
  have hstop : ∀ c ∈ e.declared.head?, FieldLine.isPathChar c = false := by
    intro c hc
    cases hpath : FieldLine.isPathChar c with
    | false => rfl
    | true =>
      have := e.head?_declared c hc
      rw [isPathChar_isTypeChar hpath] at this
      exact absurd this (by decide)
  have htake := takeWhile_append_of_stop path.isPathChar hstop
  have hdrop := dropWhile_append_of_stop path.isPathChar hstop
  cases pointer with
  | true =>
    have htext : (Decl.embedded true path).text ++ e.declared = '*' :: (path.text ++ e.declared) :=
      rfl
    rw [htext, FieldLine.embedded?]
    simp only [htake, hdrop]
    exact if_neg path.ne_nil
  | false =>
    have htext : (Decl.embedded false path).text ++ e.declared = path.text ++ e.declared := rfl
    have hhead : ∀ r, path.text ++ e.declared ≠ '*' :: r := by
      intro r hr
      have := head?_append_of_ne_nil path.ne_nil path.isPathChar e.declared '*' (by rw [hr]; rfl)
      exact absurd this (by decide)
    rw [htext, FieldLine.embedded?_of_head hhead, htake, hdrop]
    exact if_neg path.ne_nil

/-- A printed declaration declares its fields, with the tag of its ending. -/
theorem fields_printed (d : Decl) (e : Ending) :
    FieldLine.fields (d.text ++ e.text) = d.fields e.tag := by
  rw [FieldLine.fields, declarationPart_printed]
  cases d with
  | named first more pad type =>
    simp only [FieldLine.named?, declaration?_named, Option.bind_eq_bind, Option.bind_some,
      e.ending?_declared]
    simp [Decl.fields]
  | embedded pointer path =>
    simp only [FieldLine.named?, declaration?_embedded, FieldLine.unnamed?, embedded?_embedded,
      Option.bind_eq_bind, Option.bind_none, Option.bind_some, e.ending?_declared]
    rfl

end Source
end TagLint
