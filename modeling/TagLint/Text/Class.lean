import TagLint.Text.WordTable

/-! Texts as lists of characters, and the character classes that scanning rests on. -/
namespace TagLint

/-- Indices, lengths and columns count characters. -/
abbrev Text := List Char

instance : Coe String Text := ⟨String.toList⟩

namespace Text

def inRanges (ranges : List (Nat × Nat)) (c : Char) : Bool :=
  ranges.any fun (lo, hi) => lo ≤ c.toNat && c.toNat ≤ hi

def blanks : List Nat :=
  [0x09, 0x0A, 0x0B, 0x0C, 0x0D, 0x1C, 0x1D, 0x1E, 0x1F, 0x20, 0x85, 0xA0, 0x1680,
    0x2000, 0x2001, 0x2002, 0x2003, 0x2004, 0x2005, 0x2006, 0x2007, 0x2008, 0x2009, 0x200A,
    0x2028, 0x2029, 0x202F, 0x205F, 0x3000]

/-- Zero-width spaces and the byte order mark are not blank. -/
def isBlank (c : Char) : Bool := blanks.contains c.toNat

/-- Letters, numbers of every kind and the underscore; combining marks are not word characters. -/
def isWord (c : Char) : Bool :=
  if c.toNat < 128 then c.isAlphanum || c == '_' else inRanges alphanumericRanges c

def isDecimal (c : Char) : Bool :=
  if c.toNat < 128 then c.isDigit else inRanges decimalRanges c

theorem isWord_of_mem_blanks : ∀ n ∈ blanks, isWord (Char.ofNat n) = false := by decide +kernel

theorem isBlank_eq_false_of_isWord {c : Char} (h : isWord c) : isBlank c = false := by
  by_cases hb : isBlank c
  · simp only [isBlank, List.contains_eq_mem, decide_eq_true_eq] at hb
    have := isWord_of_mem_blanks _ hb
    simp_all [Char.ofNat_toNat]
  · simpa using hb

end Text
end TagLint
