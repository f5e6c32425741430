namespace Depository.Text

/-- Ascending bounds: membership starts outside and flips at each of them. -/
structure CodePoints where
  bounds : Array Nat

def CodePoints.contains (s : CodePoints) (c : Char) : Bool :=
  s.bounds.countP (· ≤ c.toNat) % 2 == 1

def whiteSpace : CodePoints where
  bounds := #[
    0x9, 0xE, 0x20, 0x21, 0x85, 0x86, 0xA0, 0xA1, 0x1680, 0x1681, 0x2000, 0x200B, 0x2028, 0x202A,
    0x202F, 0x2030, 0x205F, 0x2060, 0x3000, 0x3001]

def isBlank (s : String) : Bool :=
  s.toList.all whiteSpace.contains

def utf8 (cs : List Char) : List UInt8 :=
  cs.flatMap String.utf8EncodeChar

def utf8Size (cs : List Char) : Nat :=
  (utf8 cs).length

def ofUtf8? (bytes : List UInt8) : Option String :=
  String.fromUTF8? ⟨bytes.toArray⟩

end Depository.Text
