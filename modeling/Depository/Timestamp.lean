import Depository.Text.Basic

namespace Depository

/-- Seconds since 1970-01-01T00:00:00Z and nanoseconds into the second; a leap second runs on past
a billion nanoseconds. -/
structure Timestamp where
  seconds : Int
  nanos : Nat
  deriving DecidableEq, Repr

namespace Timestamp

/-- Days since 1970-01-01 of a date in the Gregorian calendar. Years start in March here, so that a
leap day ends its year. -/
def daysOfDate (year : Int) (month day : Nat) : Int :=
  let y := if month ≤ 2 then year - 1 else year
  let era := y / 400
  let yearOfEra := y % 400
  let dayOfYear := (153 * ((month + 9) % 12) + 2) / 5 + day - 1
  era * 146097 + yearOfEra * 365 + yearOfEra / 4 - yearOfEra / 100 + dayOfYear - 719468

def dateOfDays (days : Int) : Int × Nat × Nat :=
  let z := days + 719468
  let era := z / 146097
  let dayOfEra := (z % 146097).toNat
  let yearOfEra := (dayOfEra - dayOfEra / 1460 + dayOfEra / 36524 - dayOfEra / 146096) / 365
  let dayOfYear := dayOfEra - (365 * yearOfEra + yearOfEra / 4 - yearOfEra / 100)
  let shifted := (5 * dayOfYear + 2) / 153
  let month := (shifted + 2) % 12 + 1
  let year := era * 400 + yearOfEra
  (if month ≤ 2 then year + 1 else year, month, dayOfYear - (153 * shifted + 2) / 5 + 1)

def padded (width n : Nat) : List Char :=
  let ds := Nat.toDigits 10 n
  List.replicate (width - ds.length) '0' ++ ds

def yearText (year : Int) : List Char :=
  if 0 ≤ year ∧ year ≤ 9999 then padded 4 year.toNat
  else (if year < 0 then '-' else '+') :: padded 4 year.natAbs

/-- The fewest of 0, 3, 6 and 9 places that are exact. -/
def fractionText (nanos : Nat) : List Char :=
  if nanos = 0 then []
  else if nanos % 1000000 = 0 then '.' :: padded 3 (nanos / 1000000)
  else if nanos % 1000 = 0 then '.' :: padded 6 (nanos / 1000)
  else '.' :: padded 9 nanos

def text (t : Timestamp) : List Char :=
  let (year, month, day) := dateOfDays (t.seconds / 86400)
  let s := (t.seconds % 86400).toNat
  let leap := t.nanos / 1000000000
  yearText year ++ '-' :: padded 2 month ++ '-' :: padded 2 day ++ 'T' :: padded 2 (s / 3600) ++
    ':' :: padded 2 (s / 60 % 60) ++ ':' :: padded 2 (s % 60 + leap) ++
    fractionText (t.nanos % 1000000000) ++ ['Z']

inductive Flaw
  | outOfRange
  | impossible
  | invalid
  | tooShort
  | tooLong
  deriving DecidableEq, Repr

def Flaw.message : Flaw → String
  | outOfRange => "input is out of range"
  | impossible => "no possible date and time matching input"
  | invalid => "input contains invalid characters"
  | tooShort => "premature end of input"
  | tooLong => "trailing input"

abbrev Scan := StateT (List Char) (Except Flaw)

def skipBlanks : Scan Unit :=
  modify (·.dropWhile Text.whiteSpace.contains)

def digits (width : Option Nat) : Scan (Nat × Nat) := do
  let cs ← get
  let run := (match width with | some n => cs.take n | none => cs).takeWhile Char.isDigit
  if cs.isEmpty then throw .tooShort
  if run.isEmpty then throw .invalid
  set (cs.drop run.length)
  return (Nat.ofDigitChars 10 run 0, run.length)

def field (low high : Nat) : Scan Nat := do
  skipBlanks
  let (n, _) ← digits (some 2)
  if n < low ∨ high < n then throw .outOfRange
  return n

def mark (c : Char) : Scan Unit := do
  skipBlanks
  match ← get with
  | [] => throw .tooShort
  | d :: cs => if c = d then set cs else throw .invalid

def isYear (y : Int) : Bool := -262143 ≤ y ∧ y ≤ 262142

def year : Scan Int := do
  skipBlanks
  let y : Int ← match ← get with
    | '-' :: cs => set cs; pure (-((← digits none).1 : Int))
    | '+' :: cs => set cs; pure ((← digits none).1 : Int)
    | _ => pure ((← digits (some 4)).1 : Int)
  if y < -0x80000000 ∨ 0x80000000 ≤ y then throw .outOfRange
  return y

def fraction : Scan Nat := do
  match ← get with
  | '.' :: cs =>
    set cs
    let (n, places) ← digits (some 9)
    modify (·.dropWhile Char.isDigit)
    return n * Nat.pow 10 (9 - places)
  | _ => return 0

def twoDigits (highest : Char) : Scan Nat := do
  match ← get with
  | a :: b :: cs =>
    if ¬ (a.isDigit ∧ b.isDigit) then throw .invalid
    if highest < a then throw .outOfRange
    set cs
    return Nat.ofDigitChars 10 [a, b] 0
  | cs => throw (if Text.utf8Size cs < 2 then .tooShort else .invalid)

def zone : Scan Int := do
  let cs ← get
  if (cs.take 3).map Char.toUpper = ['U', 'T', 'C'] then
    set (cs.drop 3)
    return 0
  match cs with
  | [] => throw .tooShort
  | c :: rest =>
    set rest
    if c = 'Z' ∨ c = 'z' then return 0
    if c ≠ '+' ∧ c ≠ '-' ∧ c ≠ '\u2212' then throw .invalid
    let hours ← twoDigits '9'
    modify (·.dropWhile fun d => d = ':' || Text.whiteSpace.contains d)
    let minutes ← twoDigits '5'
    let east : Int := (hours * 3600 + minutes * 60 : Nat)
    return if c = '+' then east else -east

def scan : Scan Timestamp := do
  let y ← year
  mark '-'
  let month ← field 1 12
  mark '-'
  let day ← field 1 31
  match ← get with
  | [] => throw .tooShort
  | c :: cs => if c = 'T' ∨ c = 't' ∨ c = ' ' then set cs else throw .invalid
  let hour ← field 0 23
  mark ':'
  let minute ← field 0 59
  mark ':'
  let second ← field 0 60
  let nanos ← fraction
  skipBlanks
  let east ← zone
  skipBlanks
  unless (← get).isEmpty do throw .tooLong
  let days := daysOfDate y month day
  if dateOfDays days ≠ (y, month, day) ∨ 86400 ≤ east.natAbs ∨ ¬ isYear y then throw .outOfRange
  let ofDay : Int := (hour * 3600 + minute * 60 + min second 59 : Nat)
  let seconds := days * 86400 + ofDay - east
  if ¬ isYear (dateOfDays (seconds / 86400)).1 then throw .impossible
  return ⟨seconds, nanos + second / 60 * 1000000000⟩

def ofText (s : String) : Except Flaw Timestamp :=
  (scan s.toList).map Prod.fst

end Timestamp

end Depository
