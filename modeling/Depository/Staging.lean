import Depository.Authority
import Depository.Books
import Depository.Payout

/-!
Calls inside a transaction. What a call has staged before it fails stays staged.
-/

namespace Depository

open Store

inductive Abort
  | failed (f : Failure)
  | panicked
  deriving DecidableEq, Repr

structure Session (γ : Type) where
  tx : Transaction
  payer : γ
  log : List LogRecord := []

abbrev Staging (γ : Type) := ExceptT Abort (StateM (Session γ))

namespace Staging

variable {γ α : Type}

def fail (f : Failure) : Staging γ α := throw (.failed f)

def check : Except Failure α → Staging γ α
  | .ok a => pure a
  | .error f => fail f

def log (r : TxId → LogRecord) : Staging γ Unit :=
  modify fun s => { s with log := s.log ++ [r s.tx.stamp.tx] }

def tx : Staging γ Transaction := do
  return (← get).tx

def setTx (t : Transaction) : Staging γ Unit :=
  modify fun s => { s with tx := t }

def allocateOrderId : Staging γ OrderId := do
  let t ← tx
  let (seq, orders) ← check t.orders.allocate
  setTx { t with orders := orders }
  return ⟨seq⟩

def allocateCheckpointId : Staging γ CheckpointId := do
  let t ← tx
  let (seq, checkpoints) ← check t.checkpoints.allocate
  setTx { t with checkpoints := checkpoints }
  return ⟨seq⟩

def upsertDeposit (d : Deposit) : Staging γ Unit := do
  let t ← tx
  setTx { t with deposits := ← check (t.deposits.upsert d) }

def insertOrder (o : Order) : Staging γ Unit := do
  let t ← tx
  setTx { t with orders := ← check (t.orders.insert o) }

def insertCheckpoint (c : Checkpoint) : Staging γ Unit := do
  let t ← tx
  setTx { t with checkpoints := ← check (t.checkpoints.insert c) }

def setOwner (owner : Account) : Staging γ Unit := do
  setTx { ← tx with stagedOwner := some owner }

def emit (kind : EventKind) : Staging γ Unit := do
  let t ← tx
  if t.audited then
    let (seq, events) ← check t.events.allocate
    setTx { t with events := events }
    let e := Event.chained seq t.stamp kind (t.digestBefore seq)
    setTx { t with events := ← check (events.insert e) }

def granted : Except Failure Capability → Staging γ Capability
  | .ok c => pure c
  | .error f => do
    if let some r := LogRecord.denial? f then log fun _ => r
    fail f

/-- The first credit of an account creates its deposit. -/
def credit (account : Account) (amount : UInt64) : Staging γ UInt64 := do
  let d := ((← tx).deposits.get? account).getD (.empty account)
  let d ← check (d.credited amount)
  upsertDeposit d
  log fun tx => .creditStaged tx account amount d.amount
  return d.amount

/-- A debit never creates a deposit. -/
def debit (account : Account) (amount : UInt64) : Staging γ UInt64 := do
  match (← tx).deposits.get? account with
  | none => return (← check ((Deposit.empty account).debited amount)).amount
  | some d =>
    let d ← check (d.debited amount)
    upsertDeposit d
    log fun tx => .debitStaged tx account amount d.amount
    return d.amount

def placeOrder (c : Capability) (request : OrderRequest) : Staging γ OrderId := do
  check (c.ensure .placeOrder request.owner)
  let balance ← credit request.owner request.value
  let id ← allocateOrderId
  let o := request.toOrder id
  emit (.orderPlaced id o.owner o.price o.amount o.value balance)
  log fun tx => .orderStaged tx o
  insertOrder o
  return id

def validateRoot (root : Root) (maxBytes : UInt64) : Except Failure Unit :=
  if root.size = 0 then .error (.malformed "checkpoint root is empty")
  else if maxBytes.toNat < root.size then
    .error (.malformed s!"checkpoint root is {root.size} bytes, limit is {maxBytes}")
  else .ok ()

def recordCheckpoint (c : Capability) (root : Root) (maxBytes : UInt64) :
    Staging γ CheckpointId := do
  check (c.ensure .recordCheckpoint (← tx).owner)
  check (validateRoot root maxBytes)
  if let some existing := (← tx).checkpoints.findUnique? root.bytes then
    log fun tx => .duplicateRoot tx root existing.id
    fail (.duplicateEntry "checkpoint.root" root.toHex)
  let id ← allocateCheckpointId
  emit (.checkpointRecorded id root)
  insertCheckpoint ⟨id, root⟩
  return id

def pay [Payer γ] (i : Instruction) : Staging γ Verdict := do
  let s ← get
  let (verdict, payer) := Payer.pay s.payer i
  set { s with payer := payer }
  return verdict

/-- Debits the owner and has the payer hand out the amount; a rejection comes last, so nothing
fails once the payer has accepted. -/
def withdraw [Payer γ] (c : Capability) (receiver : Account) (amount : UInt64) :
    Staging γ Unit := do
  let owner := (← tx).owner
  check (c.ensure .withdraw owner)
  let balance ← debit owner amount
  emit (.withdrawn receiver amount)
  match ← pay ⟨receiver, amount⟩ with
  | .accepted => log fun tx => .withdrawalStaged tx receiver amount balance
  | .rejected reason =>
    log fun tx => .transferRejected tx receiver amount reason
    fail (.transferRejected receiver amount reason)
  | .panicked => throw .panicked

def depositFunds (c : Capability) (account : Account) (amount : UInt64) : Staging γ UInt64 := do
  check (c.ensure .deposit account)
  if amount = 0 then fail (.malformed "deposit amount must be > 0")
  let balance ← credit account amount
  emit (.deposited account amount balance)
  return balance

def debitFunds (c : Capability) (account : Account) (amount : UInt64) : Staging γ UInt64 := do
  check (c.ensure .debit (← tx).owner)
  let balance ← debit account amount
  emit (.debited account amount balance)
  return balance

def transferOwnership (c : Capability) (new : Account) : Staging γ Unit := do
  let previous := (← tx).owner
  check (c.ensure .transferOwnership previous)
  if new.isEmpty then fail (.malformed "new owner must not be empty")
  emit (.ownershipTransferred previous new)
  setOwner new

end Staging

end Depository
