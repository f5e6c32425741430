import Depository.Decimal
import Depository.Text.Quoted

namespace Depository.Json

/-- A number without fraction or exponent is exact if 64 bits hold it; all others are
floating-point numbers, minus zero among them. -/
inductive Number
  | natural (n : UInt64)
  | negative (magnitude : Nat)
  | floating (x : Float)

inductive Head
  | null
  | bool (b : Bool)
  | number (n : Number)
  | text (s : String)
  | array
  | object

inductive Fault
  | endOfValue
  | endOfList
  | endOfObject
  | endOfText
  | missingColon
  | missingListBreak
  | missingObjectBreak
  | brokenWord
  | missingValue
  | badEscape
  | badNumber
  | numberTooLarge
  | controlCharacter
  | keyNotText
  | loneSurrogate
  | unfinishedSurrogate
  | trailingComma
  | trailingCharacters
  | tooDeep
  | wrongType (found : Head) (expected : String)
  | wrongValue (found : Head) (expected : String)
  | missingField (name : String)
  | duplicateField (name : String)
  | unknownVariant (name : String) (known : List String)
  | wrongLength (length : Nat) (expected : String)
  | refused (reason : String)

def Number.describe : Number → String
  | natural n => s!"integer `{n}`"
  | negative n => s!"integer `-{n}`"
  | floating x => s!"floating point `{Decimal.ofFloat x}`"

def Head.describe : Head → String
  | null => "null"
  | bool b => s!"boolean `{b}`"
  | number n => n.describe
  | text s => s!"string {Text.quoted s}"
  | array => "sequence"
  | object => "map"

def alternatives (names : List String) : String :=
  let marked := names.map fun name => s!"`{name}`"
  match marked with
  | [a, b] => s!"{a} or {b}"
  | _ => "one of " ++ ", ".intercalate marked

def Fault.message : Fault → String
  | endOfValue => "EOF while parsing a value"
  | endOfList => "EOF while parsing a list"
  | endOfObject => "EOF while parsing an object"
  | endOfText => "EOF while parsing a string"
  | missingColon => "expected `:`"
  | missingListBreak => "expected `,` or `]`"
  | missingObjectBreak => "expected `,` or `\x7d`"
  | brokenWord => "expected ident"
  | missingValue => "expected value"
  | badEscape => "invalid escape"
  | badNumber => "invalid number"
  | numberTooLarge => "number out of range"
  | controlCharacter => "control character (\\u0000-\\u001F) found while parsing a string"
  | keyNotText => "key must be a string"
  | loneSurrogate => "lone leading surrogate in hex escape"
  | unfinishedSurrogate => "unexpected end of hex escape"
  | trailingComma => "trailing comma"
  | trailingCharacters => "trailing characters"
  | tooDeep => "recursion limit exceeded"
  | wrongType found expected => s!"invalid type: {found.describe}, expected {expected}"
  | wrongValue found expected => s!"invalid value: {found.describe}, expected {expected}"
  | missingField name => s!"missing field `{name}`"
  | duplicateField name => s!"duplicate field `{name}`"
  | unknownVariant name known => s!"unknown variant `{name}`, expected {alternatives known}"
  | wrongLength n expected => s!"invalid length {n}, expected {expected}"
  | refused reason => reason

end Depository.Json
