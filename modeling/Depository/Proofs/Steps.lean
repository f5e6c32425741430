import Depository.Proofs.Calls
import Depository.Proofs.Hex

/-! What calls are built from: steps that fail in a few ordinary classes and leave notices in the
log. Only a check of a capability and a payout are anything more. -/

namespace Depository

open Store

variable {γ α : Type}

def Failure.Category.isOrdinary : Category → Bool
  | overflow | insufficientFunds | duplicateEntry | malformedInput => true
  | authorization | externalCollaborator | configuration | internal => false

namespace LogRecord

def isNotice : LogRecord → Bool
  | creditStaged .. | debitStaged .. | orderStaged .. | duplicateRoot .. | withdrawalStaged .. => true
  | _ => false

end LogRecord

section Failures

variable {f : Failure}

lemma Deposit.category_credited {d : Deposit} {amount : UInt64}
    (h : d.credited amount = .error f) : f.category = .overflow := by
  rw [Deposit.credited] at h
  split_ifs at h
  cases h
  rfl

lemma Deposit.category_debited {d : Deposit} {amount : UInt64}
    (h : d.debited amount = .error f) : f.category = .insufficientFunds := by
  rw [Deposit.debited] at h
  split_ifs at h
  cases h
  rfl

lemma Staging.category_validateRoot {root : Root} {maxBytes : UInt64}
    (h : validateRoot root maxBytes = .error f) : f.category = .malformedInput := by
  rw [validateRoot] at h
  split_ifs at h <;> cases h <;> rfl

namespace Store.Overlay

variable {ρ κ : Type} {s : Schema ρ κ} {o : Overlay s}

lemma category_allocate (h : o.allocate = .error f) : f.category = .overflow := by
  rw [allocate] at h
  split_ifs at h
  cases h
  rfl

variable [DecidableEq κ] [Ord κ] {r : ρ}

lemma category_upsert (h : o.upsert r = .error f) : f.category = .duplicateEntry := by
  rw [upsert] at h
  split at h
  · cases h
  · split at h
    · cases h
      rfl
    · cases h

lemma category_insert (h : o.insert r = .error f) : f.category = .duplicateEntry := by
  rw [insert] at h
  split at h
  · cases h
    rfl
  · exact category_upsert h

end Store.Overlay

end Failures

namespace Staging

structure Elementary (P : ∀ {α : Type}, Staging γ α → Prop) : Prop where
  pure : ∀ {α : Type} (a : α), P (pure a)
  bind : ∀ {α β : Type} {m : Staging γ α} {f : α → Staging γ β}, P m → (∀ a, P (f a)) → P (m >>= f)
  tx : P tx
  setTx : ∀ t, P (setTx t)
  log : ∀ r : TxId → LogRecord, (∀ tx, (r tx).isNotice = true) → P (log r)
  fail : ∀ {α : Type} (f : Failure), f.category.isOrdinary = true → P (fail f : Staging γ α)

namespace Elementary

variable {P : ∀ {α : Type}, Staging γ α → Prop} (h : Elementary P)

include h

lemma check {x : Except Failure α} {k : Failure.Category} (hk : k.isOrdinary = true)
    (hx : ∀ {f}, x = .error f → f.category = k) : P (check x) := by
  cases x with
  | ok a => exact h.pure a
  | error f => exact h.fail f (hx rfl ▸ hk)

lemma owner : P owner := h.bind h.tx fun _ => h.pure _

lemma setOwner (o : Account) : P (setOwner o) := h.bind h.tx fun _ => h.setTx _

lemma upsertDeposit (d : Deposit) : P (upsertDeposit d) :=
  h.bind h.tx fun _ => h.bind (h.check rfl Overlay.category_upsert) fun _ => h.setTx _

lemma insertOrder (o : Order) : P (insertOrder o) :=
  h.bind h.tx fun _ => h.bind (h.check rfl Overlay.category_insert) fun _ => h.setTx _

lemma insertCheckpoint (c : Checkpoint) : P (insertCheckpoint c) :=
  h.bind h.tx fun _ => h.bind (h.check rfl Overlay.category_insert) fun _ => h.setTx _

lemma allocateOrderId : P allocateOrderId :=
  h.bind h.tx fun _ => h.bind (h.check rfl Overlay.category_allocate) fun _ =>
    h.bind (h.setTx _) fun _ => h.pure _

lemma allocateCheckpointId : P allocateCheckpointId :=
  h.bind h.tx fun _ => h.bind (h.check rfl Overlay.category_allocate) fun _ =>
    h.bind (h.setTx _) fun _ => h.pure _

lemma emit (kind : EventKind) : P (emit kind) := by
  refine h.bind h.tx fun t => ?_
  split
  · exact h.bind (h.check rfl Overlay.category_allocate) fun _ => h.bind (h.setTx _) fun _ =>
      h.bind (h.check rfl Overlay.category_insert) fun _ => h.setTx _
  · exact h.pure _

lemma credit (account : Account) (amount : UInt64) : P (credit account amount) := by
  refine h.bind h.tx fun _ => h.bind (h.check rfl Deposit.category_credited) fun d => ?_
  exact h.bind (h.upsertDeposit d) fun _ => h.bind (h.log _ fun _ => rfl) fun _ => h.pure _

lemma debit (account : Account) (amount : UInt64) : P (debit account amount) := by
  refine h.bind h.tx fun t => ?_
  cases t.deposits.get? account with
  | none => exact h.bind (h.check rfl Deposit.category_debited) fun _ => h.pure _
  | some d =>
    refine h.bind (h.check rfl Deposit.category_debited) fun d => ?_
    exact h.bind (h.upsertDeposit d) fun _ => h.bind (h.log _ fun _ => rfl) fun _ => h.pure _

lemma enterOrder (request : OrderRequest) : P (enterOrder request) := by
  refine h.bind (h.credit _ _) fun balance => h.bind h.allocateOrderId fun id => ?_
  exact h.bind (h.emit _) fun _ => h.bind (h.log _ fun _ => rfl) fun _ =>
    h.bind (h.insertOrder _) fun _ => h.pure id

lemma fileRoot (root : Root) (maxBytes : UInt64) : P (fileRoot root maxBytes) := by
  refine h.bind (h.check rfl category_validateRoot) fun _ =>
    h.bind (h.bind h.tx fun _ => h.pure _) fun holder => ?_
  cases holder with
  | some existing => exact h.bind (h.log _ fun _ => rfl) fun _ => h.fail _ rfl
  | none =>
    exact h.bind h.allocateCheckpointId fun id => h.bind (h.emit _) fun _ =>
      h.bind (h.insertCheckpoint _) fun _ => h.pure id

section Payouts

variable [Payer γ]
  (hpay : ∀ receiver amount balance,
    P (pay ⟨receiver, amount⟩ >>= heed receiver amount balance : Staging γ Unit))

include hpay

lemma payOut (receiver : Account) (amount : UInt64) : P (payOut receiver amount) :=
  h.bind h.owner fun o => h.bind (h.debit o amount) fun balance => h.bind (h.emit _) fun _ =>
    hpay receiver amount balance

end Payouts

section Calls

variable (hensure : ∀ (c : Capability) operation required,
  P (Staging.check (c.ensure operation required) : Staging γ Unit))

include hensure

lemma recordCheckpoint (c : Capability) (root : Root) (maxBytes : UInt64) :
    P (recordCheckpoint c root maxBytes) := by
  rw [recordCheckpoint_steps]
  exact h.bind h.owner fun _ => h.bind (hensure _ _ _) fun _ => h.fileRoot root maxBytes

variable [Payer γ]
  (hpay : ∀ receiver amount balance,
    P (pay ⟨receiver, amount⟩ >>= heed receiver amount balance : Staging γ Unit))

include hpay

lemma stage (maxRootBytes : UInt64) (c : Capability) (r : Request) :
    P (r.stage maxRootBytes c) := by
  cases r with
  | deposit account amount =>
    refine h.bind (h.bind (hensure _ _ _) fun _ => ?_) fun _ => h.pure _
    have hcredit := h.bind (h.credit account amount) fun balance =>
      h.bind (h.emit (.deposited account amount balance)) fun _ => h.pure balance
    split
    · exact h.bind (h.fail _ rfl) fun _ => hcredit
    · exact hcredit
  | debit account amount =>
    refine h.bind ?_ fun _ => h.pure _
    rw [debitFunds_steps]
    exact h.bind h.owner fun _ => h.bind (hensure _ _ _) fun _ => h.bind (h.debit _ _) fun _ =>
      h.bind (h.emit _) fun _ => h.pure _
  | placeOrder o =>
    refine h.bind ?_ fun _ => h.pure _
    rw [placeOrder_steps]
    exact h.bind (hensure _ _ _) fun _ => h.enterOrder o
  | recordRoot root =>
    exact h.bind (h.recordCheckpoint hensure c root maxRootBytes) fun _ => h.pure _
  | recordHex text =>
    have hroot : P (Staging.check (Root.ofHex text) : Staging γ Root) :=
      h.check (k := .malformedInput) rfl fun hx => by
        obtain ⟨reason, rfl⟩ := Root.malformed_of_ofHex hx
        rfl
    exact h.bind hroot fun root => h.bind (h.recordCheckpoint hensure c root maxRootBytes)
      fun _ => h.pure _
  | withdraw receiver amount =>
    refine h.bind ?_ fun _ => h.pure _
    rw [withdraw_steps]
    exact h.bind h.owner fun o => h.bind (hensure _ _ _) fun _ => h.bind (h.debit o amount)
      fun balance => h.bind (h.emit _) fun _ => hpay receiver amount balance
  | transferOwnership new =>
    refine h.bind ?_ fun _ => h.pure _
    rw [transferOwnership_steps]
    refine h.bind h.owner fun previous => h.bind (hensure _ _ _) fun _ => ?_
    split
    · exact h.fail _ rfl
    · exact h.bind (h.emit _) fun _ => h.setOwner new

end Calls

end Elementary

end Staging

end Depository
