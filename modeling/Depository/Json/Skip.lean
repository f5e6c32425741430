import Depository.Json.Reader

/-!
Values that are passed over: however deep they are nested, only their grammar is looked at.
-/

namespace Depository.Json

inductive Frame
  | list
  | object

/-- What is due next: a value, or behind one the break to the next or the end of its container.
No break stands in front of a first element. -/
inductive Due
  | value
  | break (first : Bool)

namespace Skip

def missing : Frame → Fault
  | .list => .missingListBreak
  | .object => .missingObjectBreak

def cut : Frame → Fault
  | .list => .endOfList
  | .object => .endOfObject

def closes : Frame → Char → Bool
  | .list, c => c = ']'
  | .object, c => c = '}'

def name : Frame → Reader Unit
  | .list => pure ()
  | .object => do
    match skipSpace (← get) with
    | '"' :: cs => set (← Literal.skip cs)
    | [] => throw .endOfObject
    | _ => throw .keyNotText
    colon

def token : Reader (Option Frame) := do
  match skipSpace (← get) with
  | [] => throw .endOfValue
  | c :: cs =>
    set cs
    match c with
    | 'n' => word ['u', 'l', 'l']; return none
    | 't' => word ['r', 'u', 'e']; return none
    | 'f' => word ['a', 'l', 's', 'e']; return none
    | '"' => set (← Literal.skip cs); return none
    | '[' => return some .list
    | '{' => return some .object
    | '-' => set (← Numeral.read .badNumber cs).2; return none
    | _ =>
      if ¬ c.isDigit then throw .missingValue
      set (← Numeral.read .badNumber (c :: cs)).2
      return none

def step : List Frame → Due → Reader (List Frame × Due)
  | stack, .value => do
    match ← token with
    | some frame => return (frame :: stack, .break true)
    | none => return (stack, .break false)
  | [], .break _ => return ([], .break false)
  | frame :: stack, .break first => do
    match skipSpace (← get) with
    | [] => throw (cut frame)
    | c :: cs =>
      if c = ',' ∧ ¬ first then
        set cs
        name frame
        return (frame :: stack, .value)
      else if closes frame c then
        set cs
        return (stack, .break false)
      else if first then
        set (c :: cs)
        name frame
        return (frame :: stack, .value)
      else throw (missing frame)

def run : Nat → List Frame → Due → Reader Unit
  | _, [], .break _ => pure ()
  | 0, _, _ => throw .endOfValue
  | limit + 1, stack, due => do
    let (stack, due) ← step stack due
    run limit stack due

end Skip

/-- Passes over a value: of any two steps one takes up a character. -/
def skip : Reader Unit := do
  Skip.run (2 * (← get).length + 2) [] .value

end Depository.Json
