import Depository.Json.Record

namespace Depository.Json

structure Variant (τ : Type) where
  tag : String
  ofMembers : List (String × Value) → Except Fault τ
  ofItems : List Value → Except Fault τ

namespace Variant

variable {τ γ : Type}

def takeMembers (fields : Fields Scalar γ) (ms : List (String × Value)) : Except Fault γ := do
  let d ← ms.foldlM
    (fun d (name, v) => (fields.assign (fun form => form.accept v.head) name d).getD (.ok d))
    fields.blank
  fields.finish d

def nextItem (α : Type) (form : Scalar α) : StateT (List Value) (Except Fault) (Option α) := do
  match ← get with
  | [] => return none
  | v :: vs =>
    set vs
    return some (← form.accept v.head)

def takeItems (name : String) (fields : Fields Scalar γ) (vs : List Value) : Except Fault γ := do
  let n := Record.elementCount fields.size
  let (v, rest) ← (fields.inOrder (fun _ form => nextItem _ form) s!"{name} with {n}" 0).run vs
  if rest.isEmpty then return v else throw (.wrongLength vs.length s!"{n} in sequence")

def of (tag name : String) (fields : Fields Scalar γ) (make : γ → τ) : Variant τ where
  tag := tag
  ofMembers ms := (takeMembers fields ms).map make
  ofItems vs := (takeItems name fields vs).map make

end Variant

structure Tagged (τ : Type) where
  name : String
  key : String
  variants : List (Variant τ)

namespace Tagged

variable {τ γ : Type}

def variant (t : Tagged τ) : Head → Except Fault (Variant τ)
  | .text s =>
    match t.variants.find? (·.tag = s) with
    | some v => .ok v
    | none => .error (.unknownVariant s (t.variants.map Variant.tag))
  | h => .error (.wrongType h "variant identifier")

def readMember (t : Tagged τ) (room : Nat) (name : String)
    (found : Option (Variant τ) × List (String × Value)) :
    Reader (Option (Variant τ) × List (String × Value)) := do
  if name = t.key then
    if found.1.isSome then throw (.duplicateField t.key)
    colon
    return (some (← t.variant (← head)), found.2)
  else
    colon
    return (found.1, (name, ← Value.read room) :: found.2)

def read (t : Tagged τ) (room : Nat) : Reader τ := do
  match ← head with
  | .object =>
    let (v, ms) ← objectOf (t.readMember room) (none, [])
    match v with
    | some v => v.ofMembers ms.reverse
    | none => throw (.missingField t.key)
  | .array =>
    if ¬ (← anotherElement true) then throw (.missingField t.key)
    let v ← t.variant (← head)
    let vs ← elements (Value.read room) ((← get).length + 1) false
    closeArray
    v.ofItems vs
  | h => throw (.wrongType h s!"internally tagged enum {t.name}")

def writeAs (t : Tagged τ) (tag : String) (fields : Fields Scalar γ) (v : γ) : List Char :=
  let key := Literal.write t.key.toList ++ ':' :: Literal.write tag.toList
  '{' :: separated (key :: fields.write Scalar.write v) ++ ['}']

end Tagged

end Depository.Json
