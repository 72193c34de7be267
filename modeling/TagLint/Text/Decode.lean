import TagLint.Text.Quoted

/-! Bytes as text: strict decoding of UTF-8, and line ends. -/
namespace TagLint.Text

inductive DecodeFault where
  | startByte
  | continuation
  | endOfData
deriving DecidableEq, Repr

/-- The bytes from `start` up to `stop` that cannot be read. -/
structure DecodeError where
  fault : DecodeFault
  start : Nat
  stop : Nat
  first : UInt8
deriving DecidableEq, Repr

def DecodeFault.message : DecodeFault → Text
  | startByte => "invalid start byte"
  | continuation => "invalid continuation byte"
  | endOfData => "unexpected end of data"

def DecodeError.message (e : DecodeError) : Text :=
  let bytes : Text :=
    if e.stop = e.start + 1
      then "byte 0x" ++ hex 2 e.first.toNat ++ " in position " ++ ofNat e.start
    else "bytes in position " ++ ofNat e.start ++ "-" ++ ofNat (e.stop - 1)
  "'utf-8' codec can't decode " ++ bytes ++ ": " ++ e.fault.message

def isContinuation (b : UInt8) : Bool := 0x80 ≤ b && b < 0xC0

/-- Whether the second byte keeps the code in its shortest form, below the last one, and no
surrogate. -/
def secondFits (first second : UInt8) : Bool :=
  isContinuation second && match first.toNat with
    | 0xE0 => 0xA0 ≤ second
    | 0xED => second < 0xA0
    | 0xF0 => 0x90 ≤ second
    | 0xF4 => second < 0x90
    | _ => true

/-- How many bytes follow a first byte. -/
def following? (first : UInt8) : Option Nat :=
  if first < 0x80 then some 0
  else if first < 0xC2 then none
  else if first < 0xE0 then some 1
  else if first < 0xF0 then some 2
  else if first < 0xF5 then some 3
  else none

/-- The bytes of one character after the first, or what is wrong with them and how many are read. -/
def continuation (first : UInt8) (n : Nat) (rest : List UInt8) :
    Except (DecodeFault × Nat) (List UInt8) :=
  if n = 0 then .ok []
  else
    let given := rest.take n
    match given with
    | [] => .error (.endOfData, 1)
    | second :: more =>
      if !secondFits first second then .error (.continuation, 1)
      else
        let good := more.takeWhile isContinuation
        if good.length < more.length then .error (.continuation, 2 + good.length)
        else if given.length < n then .error (.endOfData, 1 + given.length)
        else .ok given

def scalar (first : UInt8) (rest : List UInt8) : Nat :=
  let lead := match rest.length with
    | 0 => first.toNat
    | 1 => first.toNat % 0x20
    | 2 => first.toNat % 0x10
    | _ => first.toNat % 0x08
  rest.foldl (fun n b => n * 0x40 + b.toNat % 0x40) lead

def decodeFrom (at_ : Nat) (bytes : List UInt8) : Except DecodeError Text :=
  match bytes with
  | [] => .ok []
  | first :: rest =>
    match following? first with
    | none => .error ⟨.startByte, at_, at_ + 1, first⟩
    | some n =>
      match continuation first n rest with
      | .error (fault, length) => .error ⟨fault, at_, at_ + length, first⟩
      | .ok more =>
        match decodeFrom (at_ + 1 + n) (rest.drop n) with
        | .error e => .error e
        | .ok t => .ok (Char.ofNat (scalar first more) :: t)
termination_by bytes.length
decreasing_by simp only [List.length_drop, List.length_cons]; omega

def decode (bytes : List UInt8) : Except DecodeError Text := decodeFrom 0 bytes

/-- Carriage returns, alone or before a newline, end lines too. -/
def unifyNewlines : Text → Text
  | [] => []
  | '\r' :: '\n' :: cs => '\n' :: unifyNewlines cs
  | '\r' :: cs => '\n' :: unifyNewlines cs
  | c :: cs => c :: unifyNewlines cs

end TagLint.Text
