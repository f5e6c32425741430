import Depository.Json.Skip
import Depository.Json.Value

namespace Depository.Json

structure Scalar (α : Type) where
  write : α → List Char
  accept : Head → Except Fault α

structure Format (α : Type) where
  write : α → List Char
  read : Reader α

variable {α β : Type}

def Scalar.imap (s : Scalar α) (into : α → β) (back : β → α) : Scalar β where
  write v := s.write (back v)
  accept h := (s.accept h).map into

def Scalar.refine (s : Scalar α) (into : α → Except Fault β) (back : β → α) : Scalar β where
  write v := s.write (back v)
  accept h := s.accept h >>= into

def Scalar.format (s : Scalar α) : Format α where
  write := s.write
  read := do s.accept (← head)

def Format.encode (f : Format α) (v : α) : String :=
  String.ofList (f.write v)

def Format.decode (f : Format α) (text : String) : Except Fault α :=
  readAll f.read text

def textAs (expected : String) : Scalar String where
  write s := Literal.write s.toList
  accept
    | .text s => .ok s
    | h => .error (.wrongType h expected)

def text : Scalar String := textAs "a string"

def natural (expected : String) : Scalar UInt64 where
  write n := Nat.toDigits 10 n.toNat
  accept
    | .number (.natural n) => .ok n
    | .number (.negative n) => .error (.wrongValue (.number (.negative n)) expected)
    | h => .error (.wrongType h expected)

def u64 : Scalar UInt64 := natural "u64"

def byte : Scalar UInt8 :=
  (natural "u8").refine
    (fun n => if n < 256 then .ok n.toUInt8 else .error (.wrongValue (.number (.natural n)) "u8"))
    UInt8.toUInt64

def bool : Scalar Bool where
  write b := (toString b).toList
  accept
    | .bool b => .ok b
    | h => .error (.wrongType h "a boolean")

def separated : List (List Char) → List Char :=
  List.intercalate [',']

def elementsExactly (item : Reader α) (n : Nat) : Nat → Reader (List α)
  | 0 => return []
  | k + 1 => do
    if ← anotherElement (k + 1 = n) then
      let v ← item
      return v :: (← elementsExactly item n k)
    else throw (.wrongLength (n - (k + 1)) s!"an array of length {n}")

def vector (s : Scalar α) (n : Nat) : Format (Vector α n) where
  write vs := '[' :: separated (vs.toList.map s.write) ++ [']']
  read := do
    match ← head with
    | .array =>
      let vs ← elementsExactly s.format.read n n
      closeArray
      if h : vs.length = n then return ⟨vs.toArray, by simpa using h⟩
      else throw (.wrongLength vs.length s!"an array of length {n}")
    | h => throw (.wrongType h s!"an array of length {n}")

/-- Names for the values of a finite type, each written as its name. A name may also stand as the
only member of an object, with nothing for its value. -/
def choice (known : List (String × α)) (name : α → String) : Format α where
  write v := Literal.write (name v).toList
  read := do
    let pick (s : String) : Reader α :=
      match known.lookup s with
      | some v => pure v
      | none => throw (.unknownVariant s (known.map Prod.fst))
    let cs := skipSpace (← get)
    match cs with
    | [] => throw .endOfValue
    | '"' :: rest => set rest; pick (← literal)
    | '{' :: rest =>
      set rest
      let some s ← anotherName true | throw .missingValue
      let v ← pick s
      colon
      match ← head with
      | .null => pure ()
      | h => throw (.wrongType h "unit")
      match skipSpace (← get) with
      | '}' :: rest => set rest; return v
      | [] => throw .endOfObject
      | _ => throw .missingValue
    | _ => throw .missingValue

end Depository.Json
