import Depository.Json.Format

namespace Depository.Json

/-- The named fields of a record whose values are nested pairs ending in `()`. The kind of written
form is `F`; a field with a fallback may be left out. -/
inductive Fields (F : Type → Type) : Type → Type 1
  | done : Fields F Unit
  | field {α β : Type} (name : String) (form : F α) (fallback : Option α) (rest : Fields F β) :
    Fields F (α × β)

namespace Fields

variable {F : Type → Type} {γ : Type}

def size {γ : Type} : Fields F γ → Nat
  | done => 0
  | field _ _ _ rest => rest.size + 1

def Draft {γ : Type} : Fields F γ → Type
  | done => Unit
  | @field _ α _ _ _ _ rest => Option α × rest.Draft

def blank {γ : Type} : (fs : Fields F γ) → fs.Draft
  | done => ()
  | field _ _ _ rest => (none, rest.blank)

def assign {m : Type → Type} [Monad m] [MonadExcept Fault m] {γ : Type}
    (fetch : {α : Type} → F α → m α) (name : String) :
    (fs : Fields F γ) → fs.Draft → Option (m fs.Draft)
  | done, _ => none
  | @field _ α _ own form _ rest, d =>
    let d : Option α × rest.Draft := d
    if name = own then some do
      if d.1.isSome then throw (.duplicateField own)
      return (some (← fetch form), d.2)
    else (rest.assign fetch name d.2).map fun next => do return (d.1, ← next)

def finish {γ : Type} : (fs : Fields F γ) → fs.Draft → Except Fault γ
  | done, _ => .ok ()
  | @field _ α _ name _ fallback rest, d => do
    let d : Option α × rest.Draft := d
    let v ← match d.1 <|> fallback with
      | some v => pure v
      | none => throw (.missingField name)
    return (v, ← rest.finish d.2)

def inOrder {m : Type → Type} [Monad m] [MonadExcept Fault m] {γ : Type}
    (next : {α : Type} → Nat → F α → m (Option α)) (expected : String) :
    Nat → Fields F γ → m γ
  | _, done => return ()
  | i, field _ form fallback rest => do
    let v ← match (← next i form) <|> fallback with
      | some v => pure v
      | none => throw (.wrongLength i expected)
    return (v, ← rest.inOrder next expected (i + 1))

def write {γ : Type} (render : {α : Type} → F α → α → List Char) : Fields F γ → γ → List (List Char)
  | done, _ => []
  | field name form _ rest, (v, others) =>
    (Literal.write name.toList ++ ':' :: render form v) :: rest.write render others

end Fields

structure Record (τ : Type) where
  name : String
  {γ : Type}
  fields : Fields Format γ
  make : γ → τ
  parts : τ → γ

namespace Record

variable {τ : Type}

def elementCount (n : Nat) : String :=
  s!"{n} element" ++ if n = 1 then "" else "s"

def readMembers (r : Record τ) : Reader τ := do
  let step (name : String) (d : r.fields.Draft) : Reader r.fields.Draft :=
    (r.fields.assign (fun form => do colon; form.read) name d).getD do colon; skip; return d
  let d ← members step ((← get).length + 1) true r.fields.blank
  let v ← r.fields.finish d
  closeObject
  return r.make v

def readElements (r : Record τ) : Reader τ := do
  let v ← r.fields.inOrder
    (fun i form => do if ← anotherElement (i = 0) then return some (← form.read) else return none)
    s!"{r.name} with {elementCount r.fields.size}" 0
  closeArray
  return r.make v

def format (r : Record τ) : Format τ where
  write v := '{' :: separated (r.fields.write Format.write (r.parts v)) ++ ['}']
  read := do
    match ← head with
    | .object => r.readMembers
    | .array => r.readElements
    | h => throw (.wrongType h r.name)

end Record

end Depository.Json
