import Depository.Json.Literal
import Depository.Json.Numeral

/-!
Reading a text from left to right: the first fault met is the one reported.
-/

namespace Depository.Json

abbrev Reader := StateT (List Char) (Except Fault)

def isSpace (c : Char) : Bool :=
  c = ' ' || c = '\n' || c = '\t' || c = '\r'

def skipSpace (cs : List Char) : List Char := cs.dropWhile isSpace

def word : List Char → Reader Unit
  | [] => pure ()
  | w :: ws => do
    match ← get with
    | [] => throw .endOfValue
    | c :: cs =>
      if c ≠ w then throw .brokenWord
      set cs
      word ws

def numeral (negative : Bool) : Reader Head := do
  let (t, rest) ← Numeral.read .endOfValue (← get)
  set rest
  return .number (← t.value negative)

def literal : Reader String := do
  let (text, rest) ← Literal.read (← get)
  set rest
  return String.ofList text

def head : Reader Head := do
  match skipSpace (← get) with
  | [] => throw .endOfValue
  | c :: cs =>
    set cs
    match c with
    | 'n' => word ['u', 'l', 'l']; return .null
    | 't' => word ['r', 'u', 'e']; return .bool true
    | 'f' => word ['a', 'l', 's', 'e']; return .bool false
    | '"' => return .text (← literal)
    | '-' => numeral true
    | '[' => return .array
    | '{' => return .object
    | _ =>
      if ¬ c.isDigit then throw .missingValue
      set (c :: cs)
      numeral false

def anotherElement (first : Bool) : Reader Bool := do
  match skipSpace (← get) with
  | [] => throw .endOfList
  | ']' :: cs => set (']' :: cs); return false
  | c :: cs =>
    if first then
      set (c :: cs)
      return true
    if c ≠ ',' then throw .missingListBreak
    match skipSpace cs with
    | [] => throw .endOfValue
    | ']' :: _ => throw .trailingComma
    | cs => set cs; return true

def anotherName (first : Bool) : Reader (Option String) := do
  match skipSpace (← get) with
  | [] => throw .endOfObject
  | '}' :: cs => set ('}' :: cs); return none
  | c :: cs =>
    if first then
      if c ≠ '"' then throw .keyNotText
      set cs
      return some (← literal)
    if c ≠ ',' then throw .missingObjectBreak
    match skipSpace cs with
    | '"' :: cs => set cs; return some (← literal)
    | '}' :: _ => throw .trailingComma
    | [] => throw .endOfValue
    | _ => throw .keyNotText

def colon : Reader Unit := do
  match skipSpace (← get) with
  | ':' :: cs => set cs
  | [] => throw .endOfObject
  | _ => throw .missingColon

def closeArray : Reader Unit := do
  match skipSpace (← get) with
  | ']' :: cs => set cs
  | [] => throw .endOfList
  | ',' :: cs =>
    throw (if (skipSpace cs).head? = some ']' then .trailingComma else .trailingCharacters)
  | _ => throw .trailingCharacters

def closeObject : Reader Unit := do
  match skipSpace (← get) with
  | '}' :: cs => set cs
  | [] => throw .endOfObject
  | ',' :: _ => throw .trailingComma
  | _ => throw .trailingCharacters

variable {α σ : Type}

def elements (item : Reader α) : Nat → Bool → Reader (List α)
  | 0, _ => throw .endOfList
  | limit + 1, first => do
    if ← anotherElement first then
      let v ← item
      return v :: (← elements item limit false)
    else return []

def members (step : String → σ → Reader σ) : Nat → Bool → σ → Reader σ
  | 0, _, _ => throw .endOfObject
  | limit + 1, first, s => do
    match ← anotherName first with
    | some name => members step limit false (← step name s)
    | none => return s

def arrayOf (item : Reader α) : Reader (List α) := do
  let vs ← elements item ((← get).length + 1) true
  closeArray
  return vs

def objectOf (step : String → σ → Reader σ) (s : σ) : Reader σ := do
  let s ← members step ((← get).length + 1) true s
  closeObject
  return s

def readAll (r : Reader α) (text : String) : Except Fault α := do
  let (v, rest) ← r.run text.toList
  if skipSpace rest = [] then return v else throw .trailingCharacters

end Depository.Json
