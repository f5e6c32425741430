import Depository.Failure

namespace Depository

structure Capability where
  operation : Operation
  principal : Account
  deriving DecidableEq, Repr

def Policy.required (p : Policy) (owner : Account) (subject : Option Account) :
    Except Failure Account :=
  match p, subject with
  | ownerOnly, _ => .ok owner
  | selfAttested, some account => .ok account
  | selfAttested, none => .error (.internal "self-attested operation without a subject account")

namespace Capability

def authorize (operation : Operation) (caller required : Account) : Except Failure Capability :=
  if caller = required then .ok ⟨operation, caller⟩
  else .error (.unauthorized operation caller required)

def grant (operation : Operation) (caller owner : Account) (subject : Option Account) :
    Except Failure Capability := do
  authorize operation caller (← operation.policy.required owner subject)

def ensure (c : Capability) (operation : Operation) (required : Account) : Except Failure Unit :=
  if c.operation ≠ operation then
    .error (.internal s!"capability for {c.operation.label} presented to {operation.label}")
  else if c.principal ≠ required then
    .error (.unauthorized operation c.principal required)
  else .ok ()

end Capability

end Depository
