import Depository.Failure
import Depository.Json.Record

namespace Depository

structure Instruction where
  receiver : Account
  amount : UInt64
  deriving DecidableEq, Repr

def Instruction.format : Json.Format Instruction := Json.Record.format
  { name := "struct TransferInstruction"
    fields := .field "receiver" Account.form.format none <|
      .field "amount" Json.u64.format none .done
    make := fun (receiver, amount, _) => ⟨receiver, amount⟩
    parts := fun i => (i.receiver, i.amount, ()) }

inductive Verdict
  | accepted
  | rejected (reason : String)
  | panicked
  deriving DecidableEq, Repr

class Payer (γ : Type) where
  pay : γ → Instruction → Verdict × γ

structure RecordingPayer where
  accepted : List Instruction := []
  blocked : List Account := []
  refusal : Option String := none
  breaksNext : Bool := false
  deriving DecidableEq, Repr

namespace RecordingPayer

def pay (p : RecordingPayer) (i : Instruction) : Verdict × RecordingPayer :=
  if p.breaksNext then (.panicked, { p with breaksNext := false })
  else match p.refusal with
  | some reason => (.rejected reason, p)
  | none =>
    if i.receiver ∈ p.blocked then (.rejected s!"receiver {i.receiver.name} is blocked", p)
    else (.accepted, { p with accepted := p.accepted ++ [i] })

instance : Payer RecordingPayer := ⟨pay⟩

def block (p : RecordingPayer) (receiver : Account) : RecordingPayer :=
  { p with blocked := p.blocked ++ [receiver] }

def rejectAll (p : RecordingPayer) (reason : Option String) : RecordingPayer :=
  { p with refusal := reason }

def breakNext (p : RecordingPayer) : RecordingPayer :=
  { p with breaksNext := true }

/-- The sum of all accepted amounts, or the greatest number of 64 bits if that is less. -/
def totalSent (p : RecordingPayer) : UInt64 :=
  let total := p.accepted.foldl (fun n i => n + i.amount.toNat) 0
  if total < UInt64.size then total.toUInt64 else 0xffffffffffffffff

end RecordingPayer

end Depository
