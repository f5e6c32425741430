import Depository.Proofs.Ledger.History
import Mathlib.Algebra.Group.Nat.Defs

/-! A plain machine, without tables, indices or transactions, that answers as a ledger does. -/

namespace Depository

structure View where
  owner : Account
  balanceOf : Account → UInt64
  orders : List Order
  checkpoints : List Checkpoint
  findCheckpoint : Root → Option Checkpoint
  nextOrderId : OrderId
  nextCheckpointId : CheckpointId
  accepted : List Instruction

def Ledger.view (l : Ledger RecordingPayer) : View :=
  ⟨l.owner, l.balanceOf, l.orders, l.checkpoints, l.findCheckpoint, l.nextOrderId,
    l.nextCheckpointId, l.payer.accepted⟩

def Ledger.trace (l : Ledger RecordingPayer) :
    List Turn → List (Option (Except Abort Reply) × View)
  | [] => []
  | t :: turns => (l.answer t.step, (l.step t.step).view) :: (l.step t.step).trace turns

structure Plain where
  owner : Account
  balance : Account → UInt64 := fun _ => 0
  orders : List OrderRequest := []
  roots : List Root := []
  accepted : List Instruction := []
  blocked : List Account := []
  refusal : Option String := none

namespace Plain

def setBalance (m : Plain) (account : Account) (amount : UInt64) : Plain :=
  { m with balance := Function.update m.balance account amount }

def refuse (m : Plain) (f : Failure) : Except Abort Reply × Plain :=
  (.error (.failed f), m)

def deposit (m : Plain) (caller account : Account) (amount : UInt64) :
    Except Abort Reply × Plain :=
  if caller ≠ account then m.refuse (.unauthorized .deposit caller account)
  else if amount = 0 then m.refuse (.malformed "deposit amount must be > 0")
  else if 2 ^ 64 ≤ (m.balance account).toNat + amount.toNat then
    m.refuse (.balanceOverflow account (m.balance account) amount)
  else
    (.ok (.balance (m.balance account + amount)),
      m.setBalance account (m.balance account + amount))

def debit (m : Plain) (caller account : Account) (amount : UInt64) : Except Abort Reply × Plain :=
  if caller ≠ m.owner then m.refuse (.unauthorized .debit caller m.owner)
  else if m.balance account < amount then
    m.refuse (.insufficientFunds account amount (m.balance account))
  else
    (.ok (.balance (m.balance account - amount)),
      m.setBalance account (m.balance account - amount))

def placeOrder (m : Plain) (caller : Account) (o : OrderRequest) : Except Abort Reply × Plain :=
  if caller ≠ o.owner then m.refuse (.unauthorized .placeOrder caller o.owner)
  else if 2 ^ 64 ≤ (m.balance o.owner).toNat + o.value.toNat then
    m.refuse (.balanceOverflow o.owner (m.balance o.owner) o.value)
  else
    (.ok (.order ⟨m.orders.length.toUInt64⟩),
      { m.setBalance o.owner (m.balance o.owner + o.value) with orders := m.orders ++ [o] })

def record (m : Plain) (maxRootBytes : UInt64) (caller : Account) (root : Except Failure Root) :
    Except Abort Reply × Plain :=
  if caller ≠ m.owner then m.refuse (.unauthorized .recordCheckpoint caller m.owner)
  else match root with
  | .error f => m.refuse f
  | .ok root =>
    if root.size = 0 then m.refuse (.malformed "checkpoint root is empty")
    else if maxRootBytes.toNat < root.size then
      m.refuse (.malformed s!"checkpoint root is {root.size} bytes, limit is {maxRootBytes}")
    else if root ∈ m.roots then m.refuse (.duplicateEntry "checkpoint.root" root.toHex)
    else (.ok (.checkpoint ⟨m.roots.length.toUInt64⟩), { m with roots := m.roots ++ [root] })

def withdraw (m : Plain) (caller receiver : Account) (amount : UInt64) :
    Except Abort Reply × Plain :=
  if caller ≠ m.owner then m.refuse (.unauthorized .withdraw caller m.owner)
  else if m.balance m.owner < amount then
    m.refuse (.insufficientFunds m.owner amount (m.balance m.owner))
  else match m.refusal with
  | some reason => m.refuse (.transferRejected receiver amount reason)
  | none =>
    if receiver ∈ m.blocked then
      m.refuse (.transferRejected receiver amount s!"receiver {receiver.name} is blocked")
    else
      (.ok .done, { m.setBalance m.owner (m.balance m.owner - amount) with
        accepted := m.accepted ++ [⟨receiver, amount⟩] })

def transferOwnership (m : Plain) (caller new : Account) : Except Abort Reply × Plain :=
  if caller ≠ m.owner then m.refuse (.unauthorized .transferOwnership caller m.owner)
  else if new.isEmpty then m.refuse (.malformed "new owner must not be empty")
  else (.ok .done, { m with owner := new })

def perform (m : Plain) (maxRootBytes : UInt64) (caller : Account) :
    Request → Except Abort Reply × Plain
  | .deposit account amount => m.deposit caller account amount
  | .debit account amount => m.debit caller account amount
  | .placeOrder o => m.placeOrder caller o
  | .recordRoot root => m.record maxRootBytes caller (.ok root)
  | .recordHex text => m.record maxRootBytes caller (Root.ofHex text)
  | .withdraw receiver amount => m.withdraw caller receiver amount
  | .transferOwnership new => m.transferOwnership caller new

def play (m : Plain) (maxRootBytes : UInt64) : Turn → Option (Except Abort Reply) × Plain
  | .call _ caller r => ((m.perform maxRootBytes caller r).map some id)
  | .block receiver => (none, { m with blocked := m.blocked ++ [receiver] })
  | .rejectAll reason => (none, { m with refusal := reason })
  | .breakNext => (none, m)

def view (m : Plain) : View where
  owner := m.owner
  balanceOf := m.balance
  orders := m.orders.mapIdx fun i o => o.toOrder ⟨i.toUInt64⟩
  checkpoints := m.roots.mapIdx fun i root => ⟨⟨i.toUInt64⟩, root⟩
  findCheckpoint root := (m.roots.idxOf? root).map fun i => ⟨⟨i.toUInt64⟩, root⟩
  nextOrderId := ⟨m.orders.length.toUInt64⟩
  nextCheckpointId := ⟨m.roots.length.toUInt64⟩
  accepted := m.accepted

def trace (m : Plain) (maxRootBytes : UInt64) :
    List Turn → List (Option (Except Abort Reply) × View)
  | [] => []
  | t :: turns =>
    let (answer, m) := m.play maxRootBytes t
    (answer, m.view) :: m.trace maxRootBytes turns

end Plain

end Depository
