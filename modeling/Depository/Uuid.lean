import Depository.Hex

namespace Depository

structure Uuid where
  bytes : Vector UInt8 16
  deriving DecidableEq

namespace Uuid

def groups : List Nat := [8, 4, 4, 4, 12]

def cut : List Nat → List Char → List (List Char)
  | [], _ => []
  | n :: ns, cs => cs.take n :: cut ns (cs.drop n)

def text (u : Uuid) : List Char :=
  List.intercalate ['-'] (cut groups (Hex.encode u.bytes.toList))

inductive Flaw
  | badCharacter (c : Char) (position : Nat)
  | badLength (length : Nat)
  | groupCount (count : Nat)
  | groupLength (group expected found : Nat)
  deriving DecidableEq, Repr

def Flaw.message : Flaw → String
  | badCharacter c position => s!"invalid character: found `{c}` at {position}"
  | badLength n => s!"invalid length: found {n}"
  | groupCount n => s!"invalid group count: expected 5, found {n}"
  | groupLength g expected found =>
    s!"invalid group length in group {g}: expected {expected}, found {found}"

def isHexDigit (c : Char) : Bool :=
  (Hex.value? c.toNat).isSome

def unwrap (cs : List Char) : Option (List Char × Nat) :=
  match cs, cs.getLast? with
  | '{' :: rest, some '}' => some (rest.dropLast, 1)
  | _, _ => if "urn:uuid:".toList.isPrefixOf cs then some (cs.drop 9, 9) else none

def badCharacter? : Nat → List Char → Option Flaw
  | _, [] => none
  | n, c :: cs =>
    if c = '-' ∨ isHexDigit c then badCharacter? (n + 1) cs else some (.badCharacter c n)

def badGroup? (n : Nat) : List Nat → List (List Char) → Option Flaw
  | k :: ks, g :: gs =>
    if g.length = k then badGroup? (n + 1) ks gs else some (.groupLength n k g.length)
  | _, _ => none

/-- The first thing wrong with a text that is no identifier. A text longer than every form is not
looked into. One with the size of five groups is taken for them, and any other is looked at inside
its wrapping, or without hyphens and wrapping is taken for digits alone. The last group is taken to
be whatever the text has beyond the other four, its wrapping included. -/
def flaw (cs : List Char) : Flaw :=
  let size := Text.utf8Size cs
  let wrapped := if size = 36 then none else unwrap cs
  let (body, before) := wrapped.getD (cs, 0)
  let parts := body.splitOn '-'
  if 45 < size then .badLength size
  else (badCharacter? before body).getD <|
    if parts.length = 1 ∧ wrapped.isNone ∧ size ≠ 36 then .badLength size
    else if parts.length ≠ 5 then .groupCount parts.length
    else (badGroup? 0 (groups.take 4) parts).getD (.groupLength 4 12 (size - 24))

def ofDigits? (cs : List Char) : Option Uuid :=
  match Hex.decode (Text.utf8 cs) with
  | .ok bytes => if h : bytes.length = 16 then some ⟨⟨bytes.toArray, by simpa using h⟩⟩ else none
  | .error _ => none

def ofGroups? (cs : List Char) : Option Uuid :=
  let parts := cs.splitOn '-'
  if parts.map List.length = groups then ofDigits? parts.flatten else none

def ofText (s : String) : Except Flaw Uuid :=
  let cs := s.toList
  match Text.utf8Size cs, unwrap cs with
  | 32, _ => (ofDigits? cs).elim (.error (flaw cs)) .ok
  | 36, _ => (ofGroups? cs).elim (.error (flaw cs)) .ok
  | 38, some (body, 1) | 45, some (body, 9) => (ofGroups? body).elim (.error (flaw body)) .ok
  | _, _ => .error (flaw cs)

end Uuid

end Depository
