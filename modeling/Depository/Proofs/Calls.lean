import Depository.Ledger.Request
import Depository.Proofs.Staging

/-! The calls that a transaction may run, and what is enough to show of their steps to have it of
each call. -/

namespace Depository

open Store

namespace LogRecord

def restamp (tx : TxId) : LogRecord → LogRecord
  | creditStaged _ account amount balance => creditStaged tx account amount balance
  | debitStaged _ account amount balance => debitStaged tx account amount balance
  | orderStaged _ o => orderStaged tx o
  | duplicateRoot _ root existing => duplicateRoot tx root existing
  | transferRejected _ receiver amount reason => transferRejected tx receiver amount reason
  | withdrawalStaged _ receiver amount balance => withdrawalStaged tx receiver amount balance
  | committed _ operation caller rows => committed tx operation caller rows
  | rolledBack _ operation caller failure => rolledBack tx operation caller failure
  | r => r

lemma restamp_of_denial? {f : Failure} {r : LogRecord} (h : denial? f = some r) (tx : TxId) :
    r.restamp tx = r := by
  cases f with
  | unauthorized =>
    cases h
    rfl
  | _ => cases h

end LogRecord

namespace Staging

variable {γ α β : Type}

def owner : Staging γ Account := do
  return (← tx).owner

def findRoot (root : Root) : Staging γ (Option Checkpoint) := do
  return (← tx).checkpoints.findUnique? root.bytes

def enterRoot (root : Root) : Staging γ CheckpointId := do
  let id ← allocateCheckpointId
  emit (.checkpointRecorded id root)
  insertCheckpoint ⟨id, root⟩
  return id

def fileOrder (request : OrderRequest) (balance : UInt64) : Staging γ OrderId := do
  let id ← allocateOrderId
  let o := request.toOrder id
  emit (.orderPlaced id o.owner o.price o.amount o.value balance)
  log fun tx => .orderStaged tx o
  insertOrder o
  return id

def enterOrder (request : OrderRequest) : Staging γ OrderId := do
  fileOrder request (← credit request.owner request.value)

def fileRoot (root : Root) (maxBytes : UInt64) : Staging γ CheckpointId := do
  check (validateRoot root maxBytes)
  match ← findRoot root with
  | some existing =>
    log fun tx => .duplicateRoot tx root existing.id
    fail (.duplicateEntry "checkpoint.root" root.toHex)
  | none => enterRoot root

def payOut [Payer γ] (receiver : Account) (amount : UInt64) : Staging γ Unit := do
  let balance ← debit (← owner) amount
  emit (.withdrawn receiver amount)
  heed receiver amount balance (← pay ⟨receiver, amount⟩)

lemma placeOrder_steps (c : Capability) (request : OrderRequest) :
    (placeOrder c request : Staging γ OrderId) =
      check (c.ensure .placeOrder request.owner) >>= fun _ => enterOrder request := rfl

lemma recordCheckpoint_steps (c : Capability) (root : Root) (maxBytes : UInt64) :
    (recordCheckpoint c root maxBytes : Staging γ CheckpointId) =
      owner >>= fun o => check (c.ensure .recordCheckpoint o) >>= fun _ =>
        fileRoot root maxBytes := by
  rw [recordCheckpoint]
  simp only [owner, fileRoot, findRoot, bind_assoc, pure_bind]
  congr 1
  funext t
  congr 1
  funext _
  congr 1
  funext _
  congr 1
  funext u
  cases u.checkpoints.findUnique? root.bytes <;> rfl

lemma withdraw_steps [Payer γ] (c : Capability) (receiver : Account) (amount : UInt64) :
    (withdraw c receiver amount : Staging γ Unit) = owner >>= fun o =>
      check (c.ensure .withdraw o) >>= fun _ => debit o amount >>= fun balance =>
        emit (.withdrawn receiver amount) >>= fun _ =>
          pay ⟨receiver, amount⟩ >>= heed receiver amount balance := rfl

lemma debitFunds_steps (c : Capability) (account : Account) (amount : UInt64) :
    (debitFunds c account amount : Staging γ UInt64) = owner >>= fun o =>
      check (c.ensure .debit o) >>= fun _ => debit account amount >>= fun balance =>
        emit (.debited account amount balance) >>= fun _ => pure balance := rfl

lemma transferOwnership_steps (c : Capability) (new : Account) :
    (transferOwnership c new : Staging γ Unit) = owner >>= fun previous =>
      check (c.ensure .transferOwnership previous) >>= fun _ =>
        if new.isEmpty then fail (.malformed "new owner must not be empty")
        else emit (.ownershipTransferred previous new) >>= fun _ => setOwner new := by
  cases hn : new.isEmpty <;> simp only [transferOwnership, hn] <;> rfl

lemma attempt_steps [Payer γ] (maxRootBytes : UInt64) (caller : Account) (r : Request) :
    (r.attempt maxRootBytes caller : Staging γ Reply) = owner >>= fun o =>
      granted (Capability.grant r.operation caller o r.subject) >>= fun c =>
        r.stage maxRootBytes c := rfl

/-- A property that the steps of the calls have, and that passes from programs to their sequence. -/
structure Stable [Payer γ] (P : ∀ {α : Type}, Staging γ α → Prop) : Prop where
  pure : ∀ {α : Type} (a : α), P (pure a)
  throw : ∀ {α : Type} (e : Abort), P (throw e : Staging γ α)
  bind : ∀ {α β : Type} {m : Staging γ α} {f : α → Staging γ β}, P m → (∀ a, P (f a)) → P (m >>= f)
  log : ∀ r : TxId → LogRecord, (∀ tx tx', (r tx).restamp tx' = r tx') → P (log r)
  owner : P owner
  findRoot : ∀ root, P (findRoot root)
  credit : ∀ account amount, P (credit account amount)
  debit : ∀ account amount, P (debit account amount)
  allocateOrderId : P allocateOrderId
  insertOrder : ∀ o, P (insertOrder o)
  allocateCheckpointId : P allocateCheckpointId
  insertCheckpoint : ∀ c, P (insertCheckpoint c)
  emit : ∀ kind, P (emit kind)
  pay : ∀ i, P (pay i)

namespace Stable

variable [Payer γ] {P : ∀ {α : Type}, Staging γ α → Prop} (h : Stable P)

include h

lemma check (x : Except Failure α) : P (check x) := by
  cases x with
  | ok a => exact h.pure a
  | error f => exact h.throw (.failed f)

lemma placeOrder (c : Capability) (request : OrderRequest) : P (placeOrder c request) := by
  rw [Staging.placeOrder]
  refine h.bind (h.check _) fun _ => h.bind (h.credit _ _) fun _ =>
    h.bind h.allocateOrderId fun id => ?_
  exact h.bind (h.emit _) fun _ => h.bind (h.log _ fun _ _ => rfl) fun _ =>
    h.bind (h.insertOrder _) fun _ => h.pure id

lemma recordCheckpoint (c : Capability) (root : Root) (maxBytes : UInt64) :
    P (recordCheckpoint c root maxBytes) := by
  rw [recordCheckpoint_steps]
  refine h.bind h.owner fun _ => h.bind (h.check _) fun _ => h.bind (h.check _) fun _ =>
    h.bind (h.findRoot root) fun holder => ?_
  cases holder with
  | some existing => exact h.bind (h.log _ fun _ _ => rfl) fun _ => h.throw _
  | none =>
    exact h.bind h.allocateCheckpointId fun id => h.bind (h.emit _) fun _ =>
      h.bind (h.insertCheckpoint _) fun _ => h.pure id

lemma withdraw (c : Capability) (receiver : Account) (amount : UInt64) :
    P (withdraw c receiver amount) := by
  rw [withdraw_steps]
  refine h.bind h.owner fun _ => h.bind (h.check _) fun _ => h.bind (h.debit _ _) fun _ =>
    h.bind (h.emit _) fun _ => h.bind (h.pay _) fun verdict => ?_
  cases verdict with
  | accepted => exact h.log (fun tx => .withdrawalStaged tx ..) fun _ _ => rfl
  | rejected reason => exact h.bind (h.log _ fun _ _ => rfl) fun _ => h.throw _
  | panicked => exact h.throw _

lemma granted (x : Except Failure Capability) : P (granted x) := by
  cases x with
  | ok c => exact h.pure c
  | error f =>
    rw [Staging.granted]
    cases hf : LogRecord.denial? f with
    | some r =>
      exact h.bind (h.log _ fun _ => LogRecord.restamp_of_denial? hf) fun _ => h.throw _
    | none => exact h.throw _

lemma depositFunds (c : Capability) (account : Account) (amount : UInt64) :
    P (depositFunds c account amount) := by
  have hcredit := h.bind (h.credit account amount) fun balance =>
    h.bind (h.emit (.deposited account amount balance)) fun _ => h.pure balance
  rw [Staging.depositFunds]
  refine h.bind (h.check _) fun _ => ?_
  split
  · exact h.bind (h.throw _) fun _ => hcredit
  · exact hcredit

lemma debitFunds (c : Capability) (account : Account) (amount : UInt64) :
    P (debitFunds c account amount) := by
  rw [debitFunds_steps]
  exact h.bind h.owner fun _ => h.bind (h.check _) fun _ => h.bind (h.debit _ _) fun _ =>
    h.bind (h.emit _) fun _ => h.pure _

variable (hs : ∀ owner, P (setOwner owner))

include hs

lemma transferOwnership (c : Capability) (new : Account) : P (transferOwnership c new) := by
  rw [transferOwnership_steps]
  refine h.bind h.owner fun previous => h.bind (h.check _) fun _ => ?_
  split
  · exact h.throw _
  · exact h.bind (h.emit _) fun _ => hs new

lemma stage (maxRootBytes : UInt64) (c : Capability) (r : Request) :
    P (r.stage maxRootBytes c) := by
  cases r with
  | deposit account amount => exact h.bind (h.depositFunds c account amount) fun _ => h.pure _
  | debit account amount => exact h.bind (h.debitFunds c account amount) fun _ => h.pure _
  | placeOrder o => exact h.bind (h.placeOrder c o) fun _ => h.pure _
  | recordRoot root => exact h.bind (h.recordCheckpoint c root _) fun _ => h.pure _
  | recordHex text =>
    exact h.bind (h.check _) fun root => h.bind (h.recordCheckpoint c root _) fun _ => h.pure _
  | withdraw receiver amount => exact h.bind (h.withdraw c receiver amount) fun _ => h.pure _
  | transferOwnership new => exact h.bind (h.transferOwnership hs c new) fun _ => h.pure _

lemma attempt (maxRootBytes : UInt64) (caller : Account) (r : Request) :
    P (r.attempt maxRootBytes caller) := by
  rw [attempt_steps]
  exact h.bind h.owner fun _ => h.bind (h.granted _) fun c => h.stage hs maxRootBytes c r

end Stable

def Upholds (I : Transaction → Prop) (m : Staging γ α) : Prop :=
  ∀ s : Session γ, I s.tx → I (m.runIn s).2.tx

section Upholds

variable {I : Transaction → Prop}

lemma Upholds.bind {m : Staging γ α} {f : α → Staging γ β} (hm : Upholds I m)
    (hf : ∀ a, Upholds I (f a)) : Upholds I (m >>= f) := by
  intro s hs
  have hsm := hm s hs
  refine runIn_bind_elim (P := fun x => I x.2.tx) s (fun e s' hrun => ?_) fun a s' hrun => ?_
  · rw [hrun] at hsm
    exact hsm
  · rw [hrun] at hsm
    exact hf a s' hsm

lemma upholds_of_frame {m : Staging γ α} (h : ∀ s, (m.runIn s).2.tx = s.tx) : Upholds I m := by
  intro s hs
  rw [h]
  exact hs

section Deposits

variable (hd : ∀ t d, I t → I (t.withDeposit d)) (account : Account) (amount : UInt64)

include hd

lemma upholds_credit : Upholds I (credit account amount : Staging γ UInt64) := by
  intro s hs
  rw [runIn_credit]
  cases (s.tx.depositOf account).credited amount with
  | ok d => exact hd s.tx d hs
  | error f => exact hs

lemma upholds_debit : Upholds I (debit account amount : Staging γ UInt64) := by
  intro s hs
  cases hget : s.tx.deposits.get? account with
  | none =>
    rw [runIn_debit_unknown s hget]
    cases (Deposit.empty account).debited amount <;> exact hs
  | some d =>
    rw [runIn_debit_known s hget]
    cases d.debited amount with
    | ok d => exact hd s.tx d hs
    | error f => exact hs

end Deposits

lemma upholds_stable [Payer γ] (hd : ∀ t d, I t → I (t.withDeposit d))
    (hao : Upholds I (allocateOrderId : Staging γ OrderId))
    (hio : ∀ o, Upholds I (insertOrder o : Staging γ Unit))
    (hac : Upholds I (allocateCheckpointId : Staging γ CheckpointId))
    (hic : ∀ c, Upholds I (insertCheckpoint c : Staging γ Unit))
    (he : ∀ kind, Upholds I (emit kind : Staging γ Unit)) : Stable (Upholds (γ := γ) I) where
  pure _ := upholds_of_frame fun _ => rfl
  throw _ := upholds_of_frame fun _ => rfl
  bind := Upholds.bind
  log _ _ := upholds_of_frame fun _ => rfl
  owner := upholds_of_frame fun _ => rfl
  findRoot _ := upholds_of_frame fun _ => rfl
  credit := upholds_credit hd
  debit := upholds_debit hd
  allocateOrderId := hao
  insertOrder := hio
  allocateCheckpointId := hac
  insertCheckpoint := hic
  emit := he
  pay _ := upholds_of_frame fun _ => rfl

lemma upholds_stable_of_emit [Payer γ] (hd : ∀ t d, I t → I (t.withDeposit d))
    (ho : ∀ t o, I t → I { t with orders := o }) (hc : ∀ t c, I t → I { t with checkpoints := c })
    (he : ∀ kind, Upholds I (emit kind : Staging γ Unit)) : Stable (Upholds (γ := γ) I) := by
  refine upholds_stable hd (fun s hs => ?_) (fun o s hs => ?_) (fun s hs => ?_)
    (fun c s hs => ?_) he
  · rw [runIn_allocateOrderId]
    split
    · exact ho _ _ hs
    · exact hs
  · rw [runIn_insertOrder_eq]
    cases s.tx.orders.insert o with
    | ok orders => exact ho _ _ hs
    | error f => exact hs
  · rw [runIn_allocateCheckpointId]
    split
    · exact hc _ _ hs
    · exact hs
  · rw [runIn_insertCheckpoint_eq]
    cases s.tx.checkpoints.insert c with
    | ok checkpoints => exact hc _ _ hs
    | error f => exact hs

lemma upholds_stamp [Payer γ] (stamp : Stamp) :
    Stable (Upholds (γ := γ) fun t => t.stamp = stamp) := by
  refine upholds_stable_of_emit (fun _ _ h => h) (fun _ _ h => h) (fun _ _ h => h)
    fun kind s hs => ?_
  rw [runIn_emit_eq]
  split
  · split
    · exact hs
    · split <;> exact hs
  · exact hs

end Upholds

end Staging

inductive Call
  | credit (account : Account) (amount : UInt64)
  | debit (account : Account) (amount : UInt64)
  | placeOrder (c : Capability) (request : OrderRequest)
  | record (c : Capability) (root : Root) (maxBytes : UInt64)
  | withdraw (c : Capability) (receiver : Account) (amount : UInt64)

section Calls

variable {γ : Type} [Payer γ]

def Call.respond : Call → Staging γ Reply
  | credit account amount => return .balance (← Staging.credit account amount)
  | debit account amount => return .balance (← Staging.debit account amount)
  | placeOrder c request => return .order (← Staging.placeOrder c request)
  | record c root maxBytes => return .checkpoint (← Staging.recordCheckpoint c root maxBytes)
  | withdraw c receiver amount => do
    Staging.withdraw c receiver amount
    return .done

lemma Staging.Stable.respond {P : ∀ {α : Type}, Staging γ α → Prop} (h : Stable P) (c : Call) :
    P (c.respond : Staging γ Reply) := by
  cases c with
  | credit account amount => exact h.bind (h.credit account amount) fun _ => h.pure _
  | debit account amount => exact h.bind (h.debit account amount) fun _ => h.pure _
  | placeOrder c request => exact h.bind (h.placeOrder c request) fun _ => h.pure _
  | record c root maxBytes => exact h.bind (h.recordCheckpoint c root maxBytes) fun _ => h.pure _
  | withdraw c receiver amount => exact h.bind (h.withdraw c receiver amount) fun _ => h.pure _

end Calls

end Depository
