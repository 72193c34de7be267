import TagLint.Proofs.Struct.SourceWords
import TagLint.Struct.Body

/-! A printed line read again: trimmed, counted and taken apart. -/
namespace TagLint.Source
open Text Brace

variable {c : Char} {s t : Text}

/-! ## Endings -/

def Note.trimmed (n : Note) : Note :=
  ⟨trimRight n.text, fun h => n.newline (mem_of_mem_trimRight h)⟩

/-- What a trim of the line leaves of its ending. -/
def Ending.trimmed : Ending → Ending
  | bare note h =>
    bare (note.map Note.trimmed) (by
      rintro n hn hm
      obtain ⟨m, hm', rfl⟩ := Option.map_eq_some_iff.mp hn
      exact h m hm' (mem_of_mem_trimRight hm))
  | tagged pad tag note => tagged pad tag (note.map Note.trimmed)

theorem trimRight_noteText (note : Option Note) :
    trimRight (noteText note) = noteText (note.map Note.trimmed) := by
  cases note with
  | none => rfl
  | some n => exact trimRight_append (s := " //".toList) (by decide) n.text

theorem Ending.trimRight_text (e : Ending) : trimRight e.text = e.trimmed.text := by
  cases e with
  | bare note h => exact trimRight_noteText note
  | tagged pad tag note =>
    have hlast : ∀ c ∈ (pad.text ++ backtick :: tag.text ++ [backtick]).getLast?,
        isBlank c = false :=
      getLast?_append_of_ne_nil (by simp) (by decide) _
    have h := trimRight_append hlast (noteText note)
    rw [trimRight_noteText] at h
    simpa [Ending.text, Ending.trimmed] using h

/-- Nothing follows. -/
def Ending.empty : Ending := .bare none (by simp)

@[simp] theorem Ending.text_empty : Ending.empty.text = [] := rfl

@[simp] theorem Ending.trimmed_empty : Ending.empty.trimmed = .empty := rfl

@[simp] theorem Ending.tag_trimmed (e : Ending) : e.trimmed.tag = e.tag := by
  cases e <;> rfl

theorem trim_line (i : Indent) (hs : Solid s) (e : Ending) :
    trim (i.text ++ (s ++ e.text)) = s ++ e.trimmed.text := by
  rw [trim_append i.isBlank hs.ne_nil hs.head hs.last, e.trimRight_text]

theorem noteText_eq_code (note : Option Note) :
    ∃ r, (∀ c ∈ r, isBlank c) ∧
      ∀ s : Text, '/' ∉ s → before "//" (s ++ withoutRaw (noteText note)) = s ++ r := by
  cases note with
  | none =>
    refine ⟨[], by simp, fun s hs => ?_⟩
    rw [noteText, withoutRaw, List.append_nil, before_comment_of_not_mem hs]
  | some n =>
    refine ⟨[' '], by decide, fun s hs => ?_⟩
    have hraw : withoutRaw (noteText (some n)) = ' ' :: '/' :: '/' :: withoutRaw n.text := by
      rw [noteText, withoutRaw_append (by decide)]
      rfl
    have h := before_comment_append (t := s ++ [' ']) (by simp [hs]) (withoutRaw n.text)
    simpa [hraw] using h

/-- Without raw strings and comment, only blanks follow the declaration. -/
theorem Ending.exists_code (hs : ∀ c ∈ s, isPlain c) (e : Ending) :
    ∃ r, (∀ c ∈ r, isBlank c) ∧ before "//" (withoutRaw (s ++ e.text)) = s ++ r := by
  have hback : backtick ∉ s := not_mem_of_class hs (by decide)
  have hslash : '/' ∉ s := not_mem_of_class hs (by decide)
  rw [withoutRaw_append hback]
  cases e with
  | bare note h =>
    obtain ⟨r, hr, hcode⟩ := noteText_eq_code note
    exact ⟨r, hr, hcode s hslash⟩
  | tagged pad tag note =>
    obtain ⟨r, hr, hcode⟩ := noteText_eq_code note
    have hpad : backtick ∉ pad.text := not_mem_of_class pad.isPlain (by decide)
    refine ⟨pad.text ++ r, ?_, ?_⟩
    · intro c hc
      exact (List.mem_append.mp hc).elim (pad.isBlank c) (hr c)
    · have hsl : '/' ∉ pad.text := not_mem_of_class pad.isPlain (by decide)
      have hraw := withoutRaw_raw tag.backtick (noteText note)
      rw [Ending.text, List.append_assoc, withoutRaw_append hpad, hraw, ← List.append_assoc,
        hcode _ (by simp [hslash, hsl]), List.append_assoc]

theorem delta_line (hs : ∀ c ∈ s, isPlain c) (e : Ending) : delta (s ++ e.text) = balance s := by
  obtain ⟨r, hr, hcode⟩ := e.exists_code hs
  rw [delta_eq_balance, hcode, balance_append, balance_of_blank hr, Int.add_zero]

/-! ## Openers and closers -/

theorem opener_solid (name : Word) (shape : Shape) : Solid (opener name shape) where
  ne_nil := by simp [opener]
  head := by
    rw [opener, List.append_assoc]
    exact name.head _
  last := by
    have hsplit : opener name shape = (name.text ++ ' ' :: shape.text ++ "struct ".toList)
        ++ ['{'] := by
      simp [opener]
    rw [hsplit]
    exact getLast?_append_of_ne_nil (by simp) (by decide) _
  plain := by
    simp only [opener, List.mem_append, List.mem_cons]
    rintro c ((hc | rfl | hc) | hc)
    · exact isPlain_of_isWord (name.isWord c hc)
    · decide
    · exact shape.isPlain c hc
    · revert c
      decide

theorem closer_solid : Solid ['}'] := ⟨by decide, by decide, by decide, by decide⟩

/-- An opener is a text without braces, and its brace. -/
theorem opener_split (name : Word) (shape : Shape) :
    ∃ s, opener name shape = s ++ ['{'] ∧ '{' ∉ s ∧ '}' ∉ s := by
  refine ⟨name.text ++ ' ' :: shape.text ++ "struct ".toList, by simp [opener], ?_, ?_⟩ <;>
  · have hname := not_mem_of_class name.isWord (d := '{') (by decide)
    have hname' := not_mem_of_class name.isWord (d := '}') (by decide)
    cases shape <;> simp [Shape.text, hname, hname']

theorem balance_take_singleton (hc : 0 ≤ balance [c]) (n : Nat) : 0 ≤ balance ([c].take n) := by
  cases n with
  | zero => exact Int.le_refl 0
  | succ n => simpa using hc

theorem balance_take_opener (name : Word) (shape : Shape) (n : Nat) :
    0 ≤ balance ((opener name shape).take n) := by
  obtain ⟨s, hs, hopen, hclose⟩ := opener_split name shape
  rw [hs, balance_take_append hopen hclose]
  exact balance_take_singleton (by decide) _

theorem balance_opener (name : Word) (shape : Shape) : balance (opener name shape) = 1 := by
  obtain ⟨s, hs, hopen, hclose⟩ := opener_split name shape
  rw [hs, balance_append, balance_of_not_mem hopen hclose]
  rfl

end TagLint.Source
