import Depository.Json.Fault

namespace Depository.Json

structure Numeral where
  whole : List Char
  fraction : List Char
  exponent : Option (Bool × List Char)

namespace Numeral

def startsWithDigit : List Char → Bool
  | c :: _ => c.isDigit
  | [] => false

def digits (atEnd : Fault) (cs : List Char) : Except Fault (List Char × List Char) :=
  if startsWithDigit cs then .ok (cs.takeWhile Char.isDigit, cs.dropWhile Char.isDigit)
  else .error (if cs.isEmpty then atEnd else .badNumber)

def readWhole (atEnd : Fault) : List Char → Except Fault (List Char × List Char)
  | '0' :: cs => if startsWithDigit cs then .error .badNumber else .ok (['0'], cs)
  | cs => digits atEnd cs

def readFraction (atEnd : Fault) : List Char → Except Fault (List Char × List Char)
  | '.' :: cs => digits atEnd cs
  | cs => .ok ([], cs)

def readExponent (atEnd : Fault) (cs : List Char) :
    Except Fault (Option (Bool × List Char) × List Char) :=
  match cs with
  | c :: cs' =>
    if c = 'e' ∨ c = 'E' then
      let (negative, cs'') := match cs' with
        | '+' :: r => (false, r)
        | '-' :: r => (true, r)
        | r => (false, r)
      (digits atEnd cs'').map fun (ds, rest) => (some (negative, ds), rest)
    else .ok (none, cs)
  | [] => .ok (none, [])

def read (atEnd : Fault) (cs : List Char) : Except Fault (Numeral × List Char) := do
  let (whole, cs) ← readWhole atEnd cs
  let (fraction, cs) ← readFraction atEnd cs
  let (exponent, cs) ← readExponent atEnd cs
  return (⟨whole, fraction, exponent⟩, cs)

/-- Appends digits to a number while 64 bits hold it, and counts those left over. -/
def gather (n : Nat) : List Char → Nat × Nat
  | [] => (n, 0)
  | d :: ds =>
    let m := Nat.ofDigitChars 10 [d] n
    if m < UInt64.size then gather m ds else (n, ds.length + 1)

def scale : Nat → Float → Int → Except Fault Float
  | 0, x, _ => .ok x
  | steps + 1, x, e =>
    if e.natAbs ≤ 308 then
      let power := Float.ofScientific 1 false e.natAbs
      if e < 0 then .ok (x / power)
      else if (x * power).isInf then .error .numberTooLarge
      else .ok (x * power)
    else if x == 0 then .ok x
    else if e < 0 then scale steps (x / 1e308) (e + 308)
    else .error .numberTooLarge

/-- The value of a numeral with the given sign. Three steps of scaling take every significand of 64
bits below the smallest positive number. -/
def value (negative : Bool) (t : Numeral) : Except Fault Number :=
  let (n, excess) := gather 0 t.whole
  if t.fraction = [] ∧ t.exponent = none ∧ excess = 0 then
    if ¬ negative then .ok (.natural n.toUInt64)
    else if n = 0 ∨ UInt64.size / 2 < n then .ok (.floating (-n.toUInt64.toFloat))
    else .ok (.negative n)
  else
    let (m, unused) := gather n t.fraction
    let places : Int := (excess : Int) - (t.fraction.length - unused : Nat)
    let e : Int := match t.exponent with
      | none => 0
      | some (below, ds) =>
        let n : Int := Nat.ofDigitChars 10 ds 0
        if below then -n else n
    (scale 4 m.toUInt64.toFloat (places + e)).map fun x => .floating (if negative then -x else x)

end Numeral

end Depository.Json
