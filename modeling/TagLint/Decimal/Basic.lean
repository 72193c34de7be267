import TagLint.Text.Quoted

/-! Decimal numbers and their nearest binary ones. -/
namespace TagLint

/-- The number `digits * 10 ^ exponent`, with a sign. -/
structure Decimal where
  negative : Bool := false
  digits : Nat
  exponent : Int := 0
deriving DecidableEq, Repr, Inhabited

namespace Decimal

/-- Numerator and denominator of the absolute value. -/
def ratio (d : Decimal) : Nat × Nat :=
  if 0 ≤ d.exponent then (d.digits * Nat.pow 10 d.exponent.toNat, 1)
  else (d.digits, Nat.pow 10 (-d.exponent).toNat)

/-- The quotient rounded to the nearest whole number, a half to the even neighbour. -/
def roundDiv (num den : Nat) : Nat :=
  let q := num / den
  let r := num % den
  if 2 * r < den then q
  else if den < 2 * r then q + 1
  else if q % 2 = 0 then q else q + 1

def isWhole (d : Decimal) : Bool := let (n, m) := d.ratio; n % m == 0

/-- The whole part, toward zero. -/
def whole (d : Decimal) : Int :=
  let (n, m) := d.ratio
  if d.negative then -((n / m : Nat) : Int) else ((n / m : Nat) : Int)

end Decimal

/-- The number `mantissa * 2 ^ exponent`, with 53 binary digits at most. -/
structure Binary where
  mantissa : Nat
  exponent : Int
deriving DecidableEq, Repr, Inhabited

namespace Binary

/-- The least exponent of a binary number. -/
def minExponent : Int := -1074

/-- `num / den` divided by `2 ^ e`, rounded. -/
def scaledDiv (num den : Nat) (e : Int) : Nat :=
  if 0 ≤ e then Decimal.roundDiv num (den * Nat.pow 2 e.toNat)
  else Decimal.roundDiv (num * Nat.pow 2 (-e).toNat) den

/-- The binary number nearest to a ratio, none beyond the largest. -/
def ofRatio? (num den : Nat) : Option Binary :=
  if num = 0 then some ⟨0, 0⟩
  else
    let guess : Int := (num.log2 : Int) - (den.log2 : Int) - 52
    let fits (e : Int) : Bool := Nat.pow 2 53 ≤ scaledDiv num den e
    let e := if fits guess then guess + 1 else if fits (guess - 1) then guess else guess - 1
    let e := max e minExponent
    let m := scaledDiv num den e
    let b : Binary := if m = Nat.pow 2 53 then ⟨Nat.pow 2 52, e + 1⟩ else ⟨m, e⟩
    if 971 < b.exponent then none else some b

/-- Whether a fraction `n / d` lies where every number reads back as this one. The gap below is half
as wide under a power of two. -/
def readsBack (b : Binary) (n d : Nat) : Bool :=
  let half := if b.mantissa = Nat.pow 2 52 ∧ minExponent < b.exponent then 1 else 2
  let low := 4 * b.mantissa - half
  let high := 4 * b.mantissa + 2
  let e := b.exponent - 2
  let (n, d) := if 0 ≤ e then (n, d * Nat.pow 2 e.toNat) else (n * Nat.pow 2 (-e).toNat, d)
  if b.mantissa % 2 = 0 then low * d ≤ n && n ≤ high * d else low * d < n && n < high * d

def ratio (b : Binary) : Nat × Nat :=
  if 0 ≤ b.exponent then (b.mantissa * Nat.pow 2 b.exponent.toNat, 1)
  else (b.mantissa, Nat.pow 2 (-b.exponent).toNat)

/-- `n / d` in units of `10 ^ e`, as numerator and denominator. -/
def inUnits (n d : Nat) (e : Int) : Nat × Nat :=
  if 0 ≤ e then (n, d * Nat.pow 10 e.toNat) else (n * Nat.pow 10 (-e).toNat, d)

/-- The power of ten at or below `n / d`, from a first guess. -/
def magnitude (n d : Nat) : Int :=
  let guess : Int := ((n.log2 : Int) - (d.log2 : Int)) * 30103 / 100000 - 1
  let atLeast (k : Int) : Bool := let (a, b) := inUnits n d k; b ≤ a
  if atLeast (guess + 2) then guess + 2 else if atLeast (guess + 1) then guess + 1 else guess

/-- The nearest neighbour on a grid of powers of ten that reads back. -/
def onGrid? (b : Binary) (e : Int) : Option Nat :=
  let (n, d) := b.ratio
  let (a, c) := inUnits n d e
  let lower := a / c
  let reads (m : Nat) : Bool :=
    let (p, q) := if 0 ≤ e then (m * Nat.pow 10 e.toNat, 1) else (m, Nat.pow 10 (-e).toNat)
    b.readsBack p q
  match reads lower, reads (lower + 1) with
  | true, true => some (Decimal.roundDiv a c)
  | true, false => some lower
  | false, true => some (lower + 1)
  | false, false => none

/-- The fewest digits that read back, with the power of ten of the last. -/
def shortest (b : Binary) : Nat × Int :=
  if b.mantissa = 0 then (0, 0)
  else
    let (n, d) := b.ratio
    let top := magnitude n d
    let found := (List.range 17).findSome? fun (k : Nat) =>
      (onGrid? b (top - (k : Int))).map fun m => (m, top - (k : Int))
    found.getD (0, 0)

end Binary

namespace Decimal

/-- Where positional notation ends, and how an exponent is written. -/
structure Style where
  maxPoint : Int
  minPoint : Int
  plus : Bool
  exponentDigits : Nat

/-- Values in messages. -/
def plain : Style := ⟨16, -3, true, 2⟩

/-- Values in documents. -/
def document : Style := ⟨16, -4, false, 1⟩

/-- Digits without the zeros at their end, and the exponent that makes up for them. -/
def dropZeros (digits : Text) (exponent : Int) : Text × Int :=
  let kept := (digits.reverse.dropWhile (· == '0')).reverse
  (kept, exponent + ((digits.length - kept.length : Nat) : Int))

/-- The digits `ds`, with the point after the first `point` of them. -/
def layOut (style : Style) (ds : Text) (point : Int) : Text :=
  if style.minPoint ≤ point ∧ point ≤ style.maxPoint then
    if point ≤ 0 then "0." ++ List.replicate (-point).toNat '0' ++ ds
    else if (ds.length : Int) ≤ point then
      ds ++ List.replicate (point.toNat - ds.length) '0' ++ ".0"
    else ds.take point.toNat ++ "." ++ ds.drop point.toNat
  else
    let e := point - 1
    let digits := Text.ofNat e.natAbs
    let mantissa := ds.take 1 ++ (if ds.length = 1 then [] else '.' :: ds.drop 1)
    let sign : Text := if e < 0 then "-" else if style.plus then "+" else []
    mantissa ++ "e" ++ sign ++ List.replicate (style.exponentDigits - digits.length) '0' ++ digits

/-- The shortest text that reads back as the nearest binary number. -/
def write (style : Style) (d : Decimal) : Text :=
  let (n, m) := d.ratio
  let sign : Text := if d.negative then ['-'] else []
  match Binary.ofRatio? n m with
  | none => sign ++ "inf"
  | some b =>
    if b.mantissa = 0 then sign ++ "0.0"
    else
      let (digits, e) := b.shortest
      let (ds, e) := dropZeros (Text.ofNat digits) e
      sign ++ layOut style ds ((ds.length : Int) + e)

/-- The nearest binary number with `places` digits after the point. -/
def fixed (places : Nat) (d : Decimal) : Text :=
  let (n, m) := d.ratio
  let (n, m) := ((Binary.ofRatio? n m).map Binary.ratio).getD (n, m)
  let digits := Text.ofNat (roundDiv (n * Nat.pow 10 places) m)
  let padded := List.replicate (places + 1 - digits.length) '0' ++ digits
  let cut := padded.length - places
  (if d.negative then ['-'] else []) ++ padded.take cut
    ++ (if places = 0 then [] else '.' :: padded.drop cut)

end Decimal
end TagLint
