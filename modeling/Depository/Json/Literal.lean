import Depository.Hex
import Depository.Json.Fault

namespace Depository.Json.Literal

def escape (c : Char) : List Char :=
  if c = '"' then ['\\', '"']
  else if c = '\\' then ['\\', '\\']
  else if c = '\x08' then ['\\', 'b']
  else if c = '\x0c' then ['\\', 'f']
  else if c = '\n' then ['\\', 'n']
  else if c = '\r' then ['\\', 'r']
  else if c = '\t' then ['\\', 't']
  else if c < ' ' then
    ['\\', 'u', '0', '0', Nat.digitChar (c.toNat / 16), Nat.digitChar (c.toNat % 16)]
  else [c]

def write (cs : List Char) : List Char :=
  '"' :: cs.flatMap escape ++ ['"']

def short? : Char → Option Char
  | '"' => some '"'
  | '\\' => some '\\'
  | '/' => some '/'
  | 'b' => some '\x08'
  | 'f' => some '\x0c'
  | 'n' => some '\n'
  | 'r' => some '\r'
  | 't' => some '\t'
  | _ => none

def unit? (a b c d : Char) : Option Nat := do
  let digit (c : Char) := Hex.value? c.toNat
  return 4096 * (← digit a) + 256 * (← digit b) + 16 * (← digit c) + (← digit d)

/-- Why four digits could not be read: fewer than four bytes are left, or one is no digit. -/
def unitFault (cs : List Char) : Fault :=
  if Text.utf8Size cs < 4 then .endOfText else .badEscape

def isLeading (n : Nat) : Bool := 0xD800 ≤ n ∧ n < 0xDC00

def isTrailing (n : Nat) : Bool := 0xDC00 ≤ n ∧ n < 0xE000

def pair (leading trailing : Nat) : Char :=
  Char.ofNat (0x10000 + 1024 * (leading - 0xD800) + (trailing - 0xDC00))

def pairFault : List Char → Fault
  | [] => .endOfText
  | '\\' :: [] => .endOfText
  | '\\' :: 'u' :: cs => unitFault cs
  | _ => .unfinishedSurrogate

def push (c : Char) : Except Fault (List Char × List Char) → Except Fault (List Char × List Char)
  | .ok (text, rest) => .ok (c :: text, rest)
  | .error e => .error e

def read : List Char → Except Fault (List Char × List Char)
  | [] => .error .endOfText
  | '"' :: cs => .ok ([], cs)
  | '\\' :: 'u' :: a :: b :: c :: d :: cs =>
    match unit? a b c d with
    | none => .error (unitFault (a :: b :: c :: d :: cs))
    | some n =>
      if isTrailing n then .error .loneSurrogate
      else if isLeading n then
        match cs with
        | '\\' :: 'u' :: e :: f :: g :: h :: cs =>
          match unit? e f g h with
          | none => .error (unitFault (e :: f :: g :: h :: cs))
          | some m => if isTrailing m then push (pair n m) (read cs) else .error .loneSurrogate
        | cs => .error (pairFault cs)
      else push (Char.ofNat n) (read cs)
  | '\\' :: 'u' :: cs => .error (unitFault cs)
  | '\\' :: c :: cs =>
    match short? c with
    | some d => push d (read cs)
    | none => .error .badEscape
  | '\\' :: [] => .error .endOfText
  | c :: cs => if c < ' ' then .error .controlCharacter else push c (read cs)

/-- Passes over a literal, in which surrogates need no partner. -/
def skip : List Char → Except Fault (List Char)
  | [] => .error .endOfText
  | '"' :: cs => .ok cs
  | '\\' :: 'u' :: a :: b :: c :: d :: cs =>
    match unit? a b c d with
    | none => .error (unitFault (a :: b :: c :: d :: cs))
    | some _ => skip cs
  | '\\' :: 'u' :: cs => .error (unitFault cs)
  | '\\' :: c :: cs => if (short? c).isSome then skip cs else .error .badEscape
  | '\\' :: [] => .error .endOfText
  | c :: cs => if c < ' ' then .error .controlCharacter else skip cs

end Depository.Json.Literal
