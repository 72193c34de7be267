import TagLint.Text.Class

/-! Trimming, splitting, joining and searching. -/
namespace TagLint.Text

def trimLeft (t : Text) : Text := t.dropWhile isBlank

theorem trimLeft_length_le (t : Text) : (trimLeft t).length ≤ t.length :=
  (List.dropWhile_sublist isBlank).length_le

def trimRight (t : Text) : Text := (t.reverse.dropWhile isBlank).reverse

def trim (t : Text) : Text := trimRight (trimLeft t)

def allBlank (t : Text) : Bool := t.all isBlank

/-- The pieces between separators; there is always one more piece than separators. -/
def split (sep : Char) : Text → List Text
  | [] => [[]]
  | c :: cs =>
    if c = sep then [] :: split sep cs
    else match split sep cs with
      | [] => [[c]]
      | piece :: pieces => (c :: piece) :: pieces

def lines (t : Text) : List Text := split '\n' t

def join (sep : Text) : List Text → Text
  | [] => []
  | [t] => t
  | t :: ts => t ++ sep ++ join sep ts

/-- The index of the first occurrence of `needle`. -/
def find? (needle : Text) : Text → Option Nat
  | [] => if needle.isEmpty then some 0 else none
  | c :: cs => if needle.isPrefixOf (c :: cs) then some 0 else (find? needle cs).map (· + 1)

/-- The index of the first occurrence at or after `start`. -/
def findFrom? (needle : Text) (start : Nat) (t : Text) : Option Nat :=
  if start ≤ t.length then (find? needle (t.drop start)).map (· + start) else none

/-- The text before the first occurrence of `needle`, all of it when there is none. -/
def before (needle : Text) (t : Text) : Text :=
  match find? needle t with
  | some i => t.take i
  | none => t

/-- The text after `start` when it begins with it. -/
def after? (start t : Text) : Option Text :=
  if start.isPrefixOf t then some (t.drop start.length) else none

theorem after?_length {start t r : Text} (h : after? start t = some r) : r.length ≤ t.length := by
  simp only [after?] at h
  split at h <;> simp_all
  subst h
  simp

/-- The text after one blank or more. -/
def afterBlanks? (t : Text) : Option Text :=
  if (trimLeft t).length < t.length then some (trimLeft t) else none

theorem afterBlanks?_length {t r : Text} (h : afterBlanks? t = some r) : r.length < t.length := by
  simp only [afterBlanks?] at h
  split at h <;> simp_all

def contains (t needle : Text) : Bool := (find? needle t).isSome

def replaceAll (c : Char) (by_ : Text) (t : Text) : Text :=
  t.flatMap fun d => if d = c then by_ else [d]

/-- `t[start:stop]`, where a negative index counts from the end. -/
def slice (start stop : Int) (t : List α) : List α :=
  let clamp (i : Int) : Nat := (if i < 0 then i + t.length else i).toNat
  (t.take (clamp stop)).drop (clamp start)

end TagLint.Text
