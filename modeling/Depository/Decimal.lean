/-!
The shortest decimal text that reads back as a given double-precision number.
-/

namespace Depository.Decimal

/-- The magnitude `mantissa * 2 ^ exponent`; it is `narrow` when the number below it is only half a
step away. -/
structure Binary where
  mantissa : Nat
  exponent : Int
  narrow : Bool

def hiddenBit : Nat := 0x10000000000000

def signBit : Nat := 0x8000000000000000

def Binary.ofBits (bits : Nat) : Binary :=
  let fraction := bits % hiddenBit
  match bits % signBit / hiddenBit with
  | 0 => ⟨fraction, -1074, false⟩
  | biased => ⟨hiddenBit + fraction, biased - 1075, fraction = 0 ∧ 1 < biased⟩

/-- A value between the two ends of the interval that is rounded to it, all over one denominator. -/
structure Span where
  (low mid high scale : Nat)
  closed : Bool

def Binary.span (b : Binary) : Span :=
  let up := Nat.pow 2 (b.exponent - 2).toNat
  { low := (4 * b.mantissa - if b.narrow then 1 else 2) * up
    mid := 4 * b.mantissa * up
    high := (4 * b.mantissa + 2) * up
    scale := Nat.pow 2 (2 - b.exponent).toNat
    closed := b.mantissa % 2 = 0 }

def Span.shift (s : Span) (e : Int) : Span :=
  let up := Nat.pow 10 e.toNat
  { s with
    low := s.low * up, mid := s.mid * up, high := s.high * up
    scale := s.scale * Nat.pow 10 (-e).toNat }

def Span.holds (s : Span) (n : Nat) : Bool :=
  if s.closed then s.low ≤ n * s.scale ∧ n * s.scale ≤ s.high
  else s.low < n * s.scale ∧ n * s.scale < s.high

def Span.whole? (s : Span) : Option Nat :=
  let n := s.mid / s.scale
  let nearer := compare (2 * s.mid) ((2 * n + 1) * s.scale)
  let first := if nearer = .lt ∨ nearer = .eq ∧ n % 2 = 0 then n else n + 1
  [first, n, n + 1].find? s.holds

def digits (n : Nat) : List Char :=
  Nat.toDigits 10 n

def Span.leading (s : Span) : Int :=
  let k := ((digits s.mid).length : Int) - (digits s.scale).length
  let t := s.shift (-k)
  if t.scale ≤ t.mid then k else k - 1

def Span.shortest (s : Span) : List Char × Int :=
  let lead := s.leading
  let found := (List.range 17).findSome? fun (p : Nat) =>
    (s.shift (p - lead)).whole?.map fun n => (digits n, p)
  match found with
  | some (ds, p) =>
    ((ds.reverse.dropWhile (· = '0')).reverse, lead + (ds.length - 1 - p))
  | none => (['0'], 0)

/-- Plain notation from five places behind the point to sixteen in front of it; powers of ten
elsewhere. -/
def layout (ds : List Char) (lead : Int) : List Char :=
  if lead < -5 ∨ 15 < lead then
    let fraction := if ds.length = 1 then [] else '.' :: ds.drop 1
    ds.take 1 ++ fraction ++ ['e', if lead < 0 then '-' else '+'] ++ digits lead.natAbs
  else if lead < 0 then
    ['0', '.'] ++ List.replicate (lead.natAbs - 1) '0' ++ ds
  else
    let whole := lead.toNat + 1
    let fraction := if ds.length ≤ whole then ['0'] else ds.drop whole
    ds.take whole ++ List.replicate (whole - ds.length) '0' ++ '.' :: fraction

def ofBits (bits : Nat) : List Char :=
  let b := Binary.ofBits bits
  let text := if b.mantissa = 0 then ['0', '.', '0'] else
    let (ds, lead) := b.span.shortest
    layout ds lead
  if signBit ≤ bits then '-' :: text else text

def ofFloat (x : Float) : String :=
  String.ofList (ofBits x.toBits.toNat)

end Depository.Decimal
