import TagLint.Settings.Environment

/-! Checks that read a value from whatever spells it. -/
namespace TagLint
open Text

namespace Setting

def trueWords : List Text := ["1", "on", "t", "true", "y", "yes"]

def falseWords : List Text := ["0", "off", "f", "false", "n", "no"]

def bool : Json → Checked Bool
  | .bool b => .ok b
  | .text t =>
    let word := t.map Char.toLower
    if trueWords.contains word then .ok true
    else if falseWords.contains word then .ok false
    else .fail .unreadableBool
  | .int n => if n = 0 then .ok false else if n = 1 then .ok true else .fail .unreadableBool
  | .decimal d =>
    if !d.isWhole then .fail .notBool
    else if d.whole = 0 then .ok false
    else if d.whole = 1 then .ok true
    else .fail .unreadableBool
  | _ => .fail .notBool

/-- Underscores stand alone between digits. -/
def withoutUnderscores? (t : Text) : Option Text :=
  if t.head? = some '_' ∨ t.getLast? = some '_' ∨ t.contains "__" then none
  else some (t.filter (· != '_'))

/-- A point with nothing but zeros after it does not count. -/
def withoutZeros (t : Text) : Text :=
  match t.findIdx? (· == '.') with
  | some i => if (t.drop (i + 1)).all (· == '0') ∧ i + 1 < t.length then t.take i else t
  | none => t

/-- Blanks without the four separators of files, groups, records and units. -/
def isSpace (c : Char) : Bool := isBlank c && !(0x1C ≤ c.toNat && c.toNat ≤ 0x1F)

/-- A whole number in decimal digits, blanks around it. -/
def intOfText? (t : Text) : Option Int := do
  let bare := ((t.dropWhile isSpace).reverse.dropWhile isSpace).reverse
  let t := withoutZeros bare
  let (negative, digits) := match t with
    | '-' :: r => (true, r)
    | '+' :: r => (false, r)
    | _ => (false, t)
  let digits ← withoutUnderscores? digits
  if digits = [] ∨ !digits.all Char.isDigit then none
  else
    let n : Int := digits.foldl (fun n c => n * 10 + (c.toNat - 48)) (0 : Nat)
    some (if negative then -n else n)

def int : Json → Checked Int
  | .int n => .ok n
  | .bool b => .ok (if b then 1 else 0)
  | .decimal d =>
    let (n, m) := d.ratio
    if (Binary.ofRatio? n m).isNone then .fail .infiniteInt
    else if !d.isWhole then .fail .fractionalInt
    else if Nat.pow 2 63 < d.whole.natAbs then .fail .hugeInt
    else .ok d.whole
  | .text t => match intOfText? t with
    | some n => .ok n
    | none => .fail .unreadableInt
  | _ => .fail .notInt

def atLeast (least : Int) (v : Json) : Checked Int := do
  let n ← int v
  if n < least then .fail (.tooSmall least) else .ok n

def text : Json → Checked Text
  | .text t => .ok t
  | _ => .fail .notText

def texts : Json → Checked (List Text)
  | .list vs => .all (vs.mapIdx fun i v => (text v).under (.index i))
  | _ => .fail .notList

def oneOf (words : List (Text × α)) : Json → Checked α
  | .text t =>
    match words.find? (·.1 = t) with
    | some (_, a) => .ok a
    | none => .fail (.notOneOf (words.map (·.1)))
  | _ => .fail (.notOneOf (words.map (·.1)))

/-- A value under a key, or the default when there is none. -/
def field (key : Text) (check : Json → Checked α) (default : α) (pairs : Json.Pairs) :
    Checked α :=
  match Json.lookup? key pairs with
  | some v => (check v).under (.key key)
  | none => .ok default

def object (name : Text) (check : Json.Pairs → Checked α) : Json → Checked α
  | .dict pairs => check pairs
  | _ => .fail (.notSection name)

def onlyKnown (known : List Text) (pairs : Json.Pairs) : Checked Unit :=
  match pairs.filter fun (k, _) => !known.contains k with
  | [] => .ok ()
  | unknown => .error (unknown.map fun (k, _) => ⟨[.key k], .extra⟩)

end Setting

/-- Texts count as the numbers or the yes and no that they spell. -/
def Package.lax : Package where
  bool := Setting.bool
  atLeast := Setting.atLeast
  text := Setting.text
  texts := Setting.texts
  oneOf := Setting.oneOf
  field := Setting.field
  object := Setting.object
  both := Checked.both
  onlyKnown := Setting.onlyKnown
  fromVariables := Environment.settings?
  merged := Environment.merged

end TagLint
