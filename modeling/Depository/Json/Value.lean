import Depository.Json.Reader

namespace Depository.Json

inductive Value
  | null
  | bool (b : Bool)
  | number (n : Number)
  | text (s : String)
  | array (items : List Value)
  | object (members : List (String × Value))

namespace Value

def head : Value → Head
  | null => .null
  | bool b => .bool b
  | number n => .number n
  | text s => .text s
  | array _ => .array
  | object _ => .object

def readWith (part : Option (Reader Value)) : Reader Value := do
  match ← Json.head with
  | .null => return null
  | .bool b => return bool b
  | .number n => return number n
  | .text s => return text s
  | .array =>
    match part with
    | none => throw .tooDeep
    | some item => return array (← arrayOf item)
  | .object =>
    match part with
    | none => throw .tooDeep
    | some item =>
      let ms ← objectOf (fun name ms => do colon; return (name, ← item) :: ms) []
      return object ms.reverse

def read : Nat → Reader Value
  | 0 => readWith none
  | room + 1 => readWith (some (read room))

end Value

def nestingLimit : Nat := 127

end Depository.Json
