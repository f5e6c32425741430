import Depository.Text.Quoted

namespace Depository.Hex

def digit (n : UInt8) : Char :=
  Char.ofNat (n.toNat + if n < 10 then 48 else 87)

def value? (code : Nat) : Option Nat :=
  if 48 ≤ code ∧ code ≤ 57 then some (code - 48)
  else if 97 ≤ code ∧ code ≤ 102 then some (code - 87)
  else if 65 ≤ code ∧ code ≤ 70 then some (code - 55)
  else none

def encode (bytes : List UInt8) : List Char :=
  bytes.flatMap fun b => [digit (b / 16), digit (b % 16)]

def toText (bytes : List UInt8) : String :=
  String.ofList (encode bytes)

inductive Flaw
  | oddLength
  | badDigit (byte : UInt8) (position : Nat)
  deriving DecidableEq, Repr

def Flaw.message : Flaw → String
  | oddLength => "Odd number of digits"
  | badDigit byte position =>
    s!"Invalid character {Text.quotedChar (Char.ofNat byte.toNat)} at position {position}"

def decodeFrom (position : Nat) : List UInt8 → Except Flaw (List UInt8)
  | hi :: lo :: rest =>
    match value? hi.toNat, value? lo.toNat with
    | some h, some l => (decodeFrom (position + 2) rest).map ((16 * h + l).toUInt8 :: ·)
    | none, _ => .error (.badDigit hi position)
    | some _, none => .error (.badDigit lo (position + 1))
  | _ => .ok []

/-- An odd length is refused before any digit is looked at. -/
def decode (text : List UInt8) : Except Flaw (List UInt8) :=
  if text.length % 2 = 1 then .error .oddLength else decodeFrom 0 text

def ofText (s : String) : Except Flaw (List UInt8) :=
  decode (Text.utf8 s.toList)

end Depository.Hex
