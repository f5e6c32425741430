import Depository.Books
import Depository.Proofs.Store.Overlay
import Depository.Proofs.Trail.Chain

namespace Depository

open Std Store

lemma lawfulEqCmp_compareOn {α β : Type} [Ord β] [LawfulEqOrd β] {f : α → β}
    (hf : Function.Injective f) : LawfulEqCmp (compareOn f) where
  compare_self {a} := compare_self (a := f a)
  eq_of_compare h := hf (LawfulEqOrd.eq_of_compare h)

instance : TransOrd Account :=
  inferInstanceAs (TransCmp (compareOn Account.name))

instance : LawfulEqOrd Account :=
  lawfulEqCmp_compareOn (f := Account.name)
    (Function.LeftInverse.injective (g := Account.mk) fun _ => rfl)

instance : TransOrd OrderId :=
  inferInstanceAs (TransCmp (compareOn OrderId.value))

instance : LawfulEqOrd OrderId :=
  lawfulEqCmp_compareOn (f := OrderId.value)
    (Function.LeftInverse.injective (g := OrderId.mk) fun _ => rfl)

instance : TransOrd CheckpointId :=
  inferInstanceAs (TransCmp (compareOn CheckpointId.value))

instance : LawfulEqOrd CheckpointId :=
  lawfulEqCmp_compareOn (f := CheckpointId.value)
    (Function.LeftInverse.injective (g := CheckpointId.mk) fun _ => rfl)

instance : Numbering OrderId := ⟨.mk, fun _ _ => rfl⟩

instance : Numbering CheckpointId := ⟨.mk, fun _ _ => rfl⟩

def rootIndex : UniqueIndex Checkpoint := ⟨"checkpoint.root", fun c => c.root.bytes⟩

lemma checkpointSchema_index : checkpointSchema.index = some rootIndex := rfl

def HasNext (next : UInt64) : Prop := next.toNat + 1 < UInt64.size

instance (next : UInt64) : Decidable (HasNext next) :=
  inferInstanceAs (Decidable (_ < _))

lemma HasNext.toNat_succ {next : UInt64} (h : HasNext next) : (next + 1).toNat = next.toNat + 1 :=
  Schema.toNat_succ h

namespace Books

structure Sound (b : Books) : Prop where
  deposits : depositSchema.Ascending b.deposits.rows
  orders : orderSchema.Serial b.orders.rows b.orders.nextSeq
  checkpoints : checkpointSchema.Serial b.checkpoints.rows b.checkpoints.nextSeq
  roots : b.checkpoints.Exact rootIndex
  events : eventSchema.Serial b.events.rows b.events.nextSeq

lemma Sound.opened (owner : Account) : Sound { owner := owner } where
  deposits := List.Pairwise.nil
  orders := Schema.Serial.nil
  checkpoints := Schema.Serial.nil
  roots k key := by simp [Entries.find?]
  events := Schema.Serial.nil

lemma get?_deposits_eq_some_iff {b : Books} (h : b.Sound) {account : Account} {d : Deposit} :
    b.deposits.get? account = some d ↔ d ∈ b.deposits.rows ∧ d.account = account :=
  h.deposits.find?_eq_some_iff

lemma Sound.findCheckpoint_eq_some_iff {b : Books} (h : b.Sound) {root : Root}
    {c : Checkpoint} :
    b.findCheckpoint root = some c ↔ c ∈ b.checkpoints.rows ∧ c.root = root := by
  rw [findCheckpoint, Table.findUnique?_eq_some_iff checkpointSchema_index
    h.checkpoints.ascending h.roots]
  exact and_congr_right fun _ => ⟨fun hr => congrArg Root.mk hr, congrArg Root.bytes⟩

lemma Sound.findCheckpoint_eq_none_iff {b : Books} (h : b.Sound) {root : Root} :
    b.findCheckpoint root = none ↔ ∀ c ∈ b.checkpoints.rows, c.root ≠ root := by
  rw [findCheckpoint, Table.findUnique?_eq_none_iff checkpointSchema_index
    h.checkpoints.ascending h.roots]
  exact forall₂_congr fun c _ =>
    not_congr ⟨fun hr => congrArg Root.mk hr, congrArg Root.bytes⟩

def setBalance (b : Books) (account : Account) (amount : UInt64) : Books :=
  { b with deposits := b.deposits.enter ⟨account, amount⟩ b.deposits.nextSeq }

def adjustBalance (b : Books) (account : Account) (amount : UInt64) : Books :=
  if (b.deposits.get? account).isSome then b.setBalance account amount else b

lemma get?_setBalance (b : Books) (account : Account) (amount : UInt64) (x : Account) :
    (b.setBalance account amount).deposits.get? x =
      if account = x then some ⟨account, amount⟩ else b.deposits.get? x :=
  b.deposits.get?_enter _ _ _

lemma balanceOf_setBalance (b : Books) (account : Account) (amount : UInt64) :
    (b.setBalance account amount).balanceOf = Function.update b.balanceOf account amount := by
  funext x
  rw [balanceOf, get?_setBalance]
  by_cases hx : account = x
  · simp [hx]
  · simp [hx, Function.update, Ne.symm hx, balanceOf]

lemma balanceOf_adjustBalance {b : Books} {account : Account} {amount : UInt64}
    (h : amount ≤ b.balanceOf account) :
    (b.adjustBalance account (b.balanceOf account - amount)).balanceOf =
      Function.update b.balanceOf account (b.balanceOf account - amount) := by
  rw [adjustBalance]
  cases hd : b.deposits.get? account with
  | some d => exact b.balanceOf_setBalance account _
  | none =>
    have hzero : b.balanceOf account = 0 := by simp [balanceOf, hd]
    have hamount : amount = 0 := UInt64.le_zero_iff.mp (hzero ▸ h)
    simp [hamount]

lemma isSome_adjustBalance (b : Books) (account : Account) (amount : UInt64) (x : Account) :
    ((b.adjustBalance account amount).deposits.get? x).isSome = (b.deposits.get? x).isSome := by
  rw [adjustBalance]
  split
  case isTrue hd =>
    rw [get?_setBalance]
    by_cases hx : account = x
    · rw [if_pos hx, ← hx, hd]
      rfl
    · rw [if_neg hx]
  case isFalse => rfl

lemma adjustBalance_frame (b : Books) (account : Account) (amount : UInt64) :
    (b.adjustBalance account amount).orders = b.orders ∧
      (b.adjustBalance account amount).checkpoints = b.checkpoints ∧
      (b.adjustBalance account amount).owner = b.owner := by
  rw [adjustBalance]
  split <;> exact ⟨rfl, rfl, rfl⟩

def carryOut (b : Books) : EventKind → Books
  | .deposited account _ balance => b.setBalance account balance
  | .debited account _ balance => b.adjustBalance account balance
  | .orderPlaced id owner price amount value balance =>
    { b.setBalance owner balance with
      orders := b.orders.enter ⟨id, owner, price, amount, value⟩ (b.orders.nextSeq + 1) }
  | .checkpointRecorded id root =>
    { b with checkpoints := b.checkpoints.enter ⟨id, root⟩ (b.checkpoints.nextSeq + 1) }
  | .withdrawn _ amount => b.adjustBalance b.owner (b.balanceOf b.owner - amount)
  | .ownershipTransferred _ new => { b with owner := new }

def chronicle (b : Books) (stamp : Stamp) (kind : EventKind) : Books :=
  { b with
    events := b.events.enter (.chained b.events.nextSeq stamp kind (digestAfter genesis b.events.rows))
      (b.events.nextSeq + 1) }

def enact (b : Books) (audited : Bool) (stamp : Stamp) (kind : EventKind) : Books :=
  if audited then (b.carryOut kind).chronicle stamp kind else b.carryOut kind

/-- The books bear out what the event records, and have room for its row. -/
def Warrants (b : Books) : EventKind → Prop
  | .deposited account amount balance =>
    (b.balanceOf account).toNat + amount.toNat < UInt64.size ∧
      balance = b.balanceOf account + amount
  | .debited account amount balance =>
    amount ≤ b.balanceOf account ∧ balance = b.balanceOf account - amount
  | .orderPlaced id owner _ _ value balance =>
    (b.balanceOf owner).toNat + value.toNat < UInt64.size ∧
      balance = b.balanceOf owner + value ∧
      id = ⟨b.orders.nextSeq⟩ ∧ HasNext b.orders.nextSeq
  | .checkpointRecorded id root =>
    b.findCheckpoint root = none ∧ id = ⟨b.checkpoints.nextSeq⟩ ∧ HasNext b.checkpoints.nextSeq
  | .withdrawn _ amount => amount ≤ b.balanceOf b.owner
  | .ownershipTransferred previous _ => previous = b.owner

@[simp] lemma carryOut_events (b : Books) (kind : EventKind) :
    (b.carryOut kind).events = b.events := by
  cases kind with
  | debited | withdrawn =>
    simp only [carryOut, adjustBalance]
    split <;> rfl
  | _ => rfl

section Enact

variable (b : Books) (audited : Bool) (stamp : Stamp) (kind : EventKind)

@[simp] lemma enact_deposits :
    (b.enact audited stamp kind).deposits = (b.carryOut kind).deposits := by
  cases audited <;> rfl

@[simp] lemma enact_orders : (b.enact audited stamp kind).orders = (b.carryOut kind).orders := by
  cases audited <;> rfl

@[simp] lemma enact_checkpoints :
    (b.enact audited stamp kind).checkpoints = (b.carryOut kind).checkpoints := by
  cases audited <;> rfl

@[simp] lemma enact_owner : (b.enact audited stamp kind).owner = (b.carryOut kind).owner := by
  cases audited <;> rfl

end Enact

lemma Sound.setBalance {b : Books} (h : b.Sound) (account : Account) (amount : UInt64) :
    (b.setBalance account amount).Sound :=
  { h with deposits := h.deposits.put _ }

lemma Sound.adjustBalance {b : Books} (h : b.Sound) (account : Account) (amount : UInt64) :
    (b.adjustBalance account amount).Sound := by
  rw [Books.adjustBalance]
  split
  · exact h.setBalance account amount
  · exact h

lemma Sound.addOrder {b : Books} (h : b.Sound) {o : Order} (ho : o.id = ⟨b.orders.nextSeq⟩)
    (hn : HasNext b.orders.nextSeq) :
    { b with orders := b.orders.enter o (b.orders.nextSeq + 1) }.Sound :=
  { h with
    orders := by
      rw [Table.enter_rows_next h.orders ho]
      exact h.orders.append ho hn }

lemma Sound.addCheckpoint {b : Books} (h : b.Sound) {c : Checkpoint}
    (hc : c.id = ⟨b.checkpoints.nextSeq⟩) (hr : b.findCheckpoint c.root = none)
    (hn : HasNext b.checkpoints.nextSeq) :
    { b with checkpoints := b.checkpoints.enter c (b.checkpoints.nextSeq + 1) }.Sound := by
  have hput : checkpointSchema.put c b.checkpoints.rows = b.checkpoints.rows ++ [c] :=
    h.checkpoints.put hc
  refine { h with checkpoints := ?_, roots := ?_ }
  · rw [Table.enter_rows, hput]
    exact h.checkpoints.append hc hn
  · refine h.roots.enter checkpointSchema_index ?_ ?_ fun x => by simp [hput]
    · have hk : checkpointSchema.key c = Numbering.ofSeq b.checkpoints.nextSeq := hc
      rw [hk]
      exact h.checkpoints.find?_next
    · intro x hx he
      exact h.findCheckpoint_eq_none_iff.mp hr x hx (congrArg Root.mk he)

lemma Sound.carryOut {b : Books} (h : b.Sound) {kind : EventKind} (hk : b.Warrants kind) :
    (b.carryOut kind).Sound := by
  cases kind with
  | deposited account _ balance => exact h.setBalance account balance
  | debited account _ balance => exact h.adjustBalance account balance
  | orderPlaced id owner price amount value balance =>
    exact (h.setBalance owner balance).addOrder hk.2.2.1 hk.2.2.2
  | checkpointRecorded id root => exact h.addCheckpoint hk.2.1 hk.1 hk.2.2
  | withdrawn _ amount => exact h.adjustBalance _ _
  | ownershipTransferred _ new => exact { h with }

lemma Sound.chronicle_rows {b : Books} (h : b.Sound) (stamp : Stamp) (kind : EventKind) :
    (b.chronicle stamp kind).events.rows = b.events.rows ++
      [.chained b.events.nextSeq stamp kind (digestAfter genesis b.events.rows)] :=
  Table.enter_rows_next h.events rfl _

lemma Sound.chronicle {b : Books} (h : b.Sound) (hn : HasNext b.events.nextSeq) (stamp : Stamp)
    (kind : EventKind) : (b.chronicle stamp kind).Sound :=
  { h with
    events := by
      rw [h.chronicle_rows]
      exact h.events.append rfl hn }

lemma Sound.enact {b : Books} (h : b.Sound) {audited : Bool} {kind : EventKind}
    (hk : b.Warrants kind) (hn : audited = true → HasNext b.events.nextSeq) (stamp : Stamp) :
    (b.enact audited stamp kind).Sound := by
  cases audited with
  | false => exact h.carryOut hk
  | true =>
    have hroom : HasNext (b.carryOut kind).events.nextSeq := by
      rw [carryOut_events]
      exact hn rfl
    exact (h.carryOut hk).chronicle hroom stamp kind

lemma Sound.enact_rows {b : Books} (h : b.Sound) (stamp : Stamp) (kind : EventKind) :
    (b.enact true stamp kind).events.rows = b.events.rows ++
      [.chained b.events.nextSeq stamp kind (digestAfter genesis b.events.rows)] := by
  rw [← h.chronicle_rows]
  simp only [Books.enact, if_true, Books.chronicle, carryOut_events]

end Books

namespace Transaction

lemma digestBefore_next {t : Transaction} (h : t.events.Ordered)
    (hs : eventSchema.Serial t.events.rows t.events.nextSeq) :
    t.digestBefore t.events.nextSeq = digestAfter genesis t.events.rows := by
  rw [digestBefore, h.get?]
  by_cases hz : t.events.nextSeq = 0
  · have hnil : t.events.rows = [] := List.eq_nil_of_length_eq_zero (by simp [hs.length, hz])
    simp [hz, hnil]
  · have hlast : eventSchema.find? (t.events.nextSeq - 1) t.events.rows = _ := hs.find?_pred hz
    rw [if_neg hz, hlast, digestAfter]

end Transaction

end Depository
