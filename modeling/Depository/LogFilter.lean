import Depository.LogRecord
import Depository.Settings
import Depository.Text.Alphanumeric

namespace Depository

structure LogFilter where
  directives : List (Option String × Nat)
  deriving DecidableEq, Repr

namespace LogFilter

def levels : List String := ["off", "error", "warn", "info", "debug", "trace"]

inductive Flaw
  | directive
  | level
  deriving DecidableEq, Repr

def Flaw.message : Flaw → String
  | directive => "invalid filter directive"
  | level =>
    "error parsing level filter: expected one of " ++
      ", ".intercalate (levels.map fun l => s!"\"{l}\"") ++ ", or a number 0-5"

/-- A level by its number, which may have a plus and leading zeros, or by its name in any case. -/
def level? (cs : List Char) : Option Nat :=
  let ds := match cs with
    | '+' :: ds => ds
    | ds => ds
  if ds ≠ [] ∧ ds.all Char.isDigit then
    let n := Nat.ofDigitChars 10 ds 0
    if n < levels.length then some n else none
  else levels.findIdx? fun l => l.toList = cs.map Char.toLower

def opens (c : Char) : Bool :=
  c = '-' || c = ':' || c = '_' || Text.alphanumeric.contains c

/-- A text that is no level is a target, of which everything is wanted; so it is if no level
follows the equals sign. -/
def directive (cs : List Char) : Except Flaw (Option String × Nat) :=
  if ¬ cs.head?.any opens then .error .directive
  else
    let target := cs.takeWhile (· ≠ '=')
    match cs.dropWhile (· ≠ '=') with
    | [] =>
      match level? cs with
      | some n => .ok (none, n)
      | none => .ok (some (String.ofList cs), 5)
    | _ :: [] => .ok (some (String.ofList target), 5)
    | _ :: text =>
      match level? text with
      | some n => .ok (some (String.ofList target), n)
      | none => .error .level

def ofText (s : String) : Except Flaw LogFilter := do
  let parts := (s.toList.splitOn ',').filter (· ≠ [])
  return ⟨← parts.mapM directive⟩

def choose (surrounding : Option String) (l : Logging) : Except Failure LogFilter :=
  match surrounding.map ofText with
  | some (.ok f) => .ok f
  | _ =>
    match ofText l.filter with
    | .ok f => .ok f
    | .error flaw =>
      .error (.configuration s!"bad log filter {Text.quoted l.filter}: {flaw.message}")

/-- Sets up logging where it is set up already: all that a good filter does is leave a record. -/
def setUpAgain (surrounding : Option String) (l : Logging) : Except Failure LogRecord :=
  (choose surrounding l).map fun _ => .subscriberPresent

end LogFilter

end Depository
