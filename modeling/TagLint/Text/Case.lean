import TagLint.Text.Class
import TagLint.Text.CaseTable

/-! Full lower-casing, with the word-final form of capital sigma. -/
namespace TagLint.Text

def isCased (c : Char) : Bool := if c.toNat < 128 then c.isAlpha else inRanges casedRanges c

def isCaseIgnorable (c : Char) : Bool := inRanges caseIgnorableRanges c

/-- One capital letter, dotted I, becomes two characters. -/
def lowerChar (c : Char) : Text :=
  if c.toNat < 128 then [c.toLower]
  else if c.toNat = 0x130 then [Char.ofNat 0x69, Char.ofNat 0x307]
  else match lowerRuns.find? fun (first, last, step, _) =>
      first ≤ c.toNat && c.toNat ≤ last && (c.toNat - first) % step == 0 with
    | some (first, _, _, image) => [Char.ofNat (image + (c.toNat - first))]
    | none => [c]

def finalSigma : Char := Char.ofNat 0x3C2

/-- The first character that case rules do not skip is cased. -/
def startsCased (cs : Text) : Bool :=
  match cs.dropWhile isCaseIgnorable with
  | c :: _ => isCased c
  | [] => false

/-- `before` holds the characters already passed, the nearest first. -/
def lowerFrom (before : Text) : Text → Text
  | [] => []
  | c :: cs =>
    (if c.toNat = 0x3A3 ∧ startsCased before ∧ !startsCased cs then [finalSigma] else lowerChar c)
      ++ lowerFrom (c :: before) cs

def lower (t : Text) : Text := lowerFrom [] t

end TagLint.Text
