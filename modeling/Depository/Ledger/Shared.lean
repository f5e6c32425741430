import Depository.Ledger.Basic

/-!
A ledger behind a lock. A panic inside a request poisons the lock for good.
-/

namespace Depository

structure SharedLedger (γ : Type) where
  ledger : Ledger γ
  poisoned : Bool := false

namespace SharedLedger

variable {γ α : Type}

def lockFailure : Failure := .internal "ledger lock poisoned"

def perform [Payer γ] (l : SharedLedger γ) (stamp : Stamp) (caller : Account) (r : Request) :
    Except Abort Reply × SharedLedger γ × List LogRecord :=
  if l.poisoned then (.error (.failed lockFailure), l, [])
  else
    let p := l.ledger.perform stamp caller r
    (p.outcome, ⟨p.ledger, p.panicked⟩, p.log)

def consult (l : SharedLedger γ) (query : Ledger γ → α) : Except Failure α :=
  if l.poisoned then .error lockFailure else .ok (query l.ledger)

end SharedLedger

end Depository
