import TagLint.Text.Basic

/-! Ranges of a source text, by line and character, both from zero. -/
namespace TagLint

structure Position where
  line : Int := 0
  character : Int := 0
deriving DecidableEq, Repr, Inhabited

/-- Half open. -/
structure Range where
  start : Position := {}
  stop : Position := {}
deriving DecidableEq, Repr, Inhabited

namespace Range

def onLine (line start length : Int) : Range := ⟨⟨line, start⟩, ⟨line, start + length⟩⟩

def isEmpty (r : Range) : Bool := r.start == r.stop

def isInverted (r : Range) : Bool :=
  r.stop.line < r.start.line ||
    (r.stop.line == r.start.line && r.stop.character < r.start.character)

/-- The text of a range within one line. A negative line counts from the last one. -/
def slice? (r : Range) (t : Text) : Option Text :=
  let lines := Text.lines t
  if r.start.line ≠ r.stop.line ∨ (lines.length : Int) ≤ r.start.line then some []
  else
    let i := if r.start.line < 0 then r.start.line + lines.length else r.start.line
    if i < 0 then none
    else (lines[i.toNat]?).map (Text.slice r.start.character r.stop.character)

def slice (r : Range) (t : Text) : Text := (r.slice? t).getD []

def clamp (p : Position) : Position := ⟨max 0 p.line, max 0 p.character⟩

/-- A range that an editor can show: no negative numbers, and one character at least. -/
def forEditor (r : Range) : Range :=
  let clamped : Range := ⟨clamp r.start, clamp r.stop⟩
  if clamped.isInverted || clamped.isEmpty then
    ⟨clamped.start, ⟨clamped.start.line, clamped.start.character + 1⟩⟩
  else clamped

end Range
end TagLint
