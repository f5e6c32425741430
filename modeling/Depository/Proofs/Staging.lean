import Depository.Proofs.Books
import Depository.Staging

namespace Depository

open Store

namespace Transaction

def depositOf (t : Transaction) (account : Account) : Deposit :=
  (t.deposits.get? account).getD (.empty account)

def withDeposit (t : Transaction) (d : Deposit) : Transaction :=
  { t with deposits := t.deposits.stage d }

def noting (t : Transaction) (kind : EventKind) : Transaction :=
  if t.audited then
    { t with
      events := { t.events with nextSeq := t.events.nextSeq + 1 }.stage
        (.chained t.events.nextSeq t.stamp kind (t.digestBefore t.events.nextSeq)) }
  else t

section Noting

variable (t : Transaction) (kind : EventKind)

@[simp] lemma noting_stamp : (t.noting kind).stamp = t.stamp := by
  rw [noting]
  split <;> rfl

@[simp] lemma noting_orders : (t.noting kind).orders = t.orders := by
  rw [noting]
  split <;> rfl

@[simp] lemma noting_checkpoints : (t.noting kind).checkpoints = t.checkpoints := by
  rw [noting]
  split <;> rfl

lemma noting_setOrders (o : Overlay orderSchema) :
    { t.noting kind with orders := o } = { t with orders := o }.noting kind := by
  cases h : t.audited <;> simp [noting, h, digestBefore]

lemma noting_setCheckpoints (o : Overlay checkpointSchema) :
    { t.noting kind with checkpoints := o } = { t with checkpoints := o }.noting kind := by
  cases h : t.audited <;> simp [noting, h, digestBefore]

lemma noting_setOwner (owner : Account) :
    { t.noting kind with stagedOwner := some owner } =
      { t with stagedOwner := some owner }.noting kind := by
  cases h : t.audited <;> simp [noting, h, digestBefore]

end Noting

end Transaction

namespace Staging

variable {γ α β : Type} (s : Session γ)

def runIn (m : Staging γ α) (s : Session γ) : Except Abort α × Session γ :=
  m.run s

@[simp] lemma check_ok (a : α) : (check (.ok a) : Staging γ α) = pure a := rfl

@[simp] lemma runIn_pure (a : α) : (pure a : Staging γ α).runIn s = (.ok a, s) := rfl

@[simp] lemma runIn_bind (m : Staging γ α) (f : α → Staging γ β) :
    (m >>= f).runIn s = match m.runIn s with
      | (.ok a, s') => (f a).runIn s'
      | (.error e, s') => (.error e, s') := by
  simp only [runIn, ExceptT.run_bind]
  change StateT.bind m.run _ s = _
  rw [StateT.bind]
  rcases m.run s with ⟨_ | _, _⟩ <;> rfl

lemma runIn_bind_elim {P : Except Abort β × Session γ → Prop} {m : Staging γ α}
    {f : α → Staging γ β} (herror : ∀ e s', m.runIn s = (.error e, s') → P (.error e, s'))
    (hok : ∀ a s', m.runIn s = (.ok a, s') → P ((f a).runIn s')) : P ((m >>= f).runIn s) := by
  rw [runIn_bind]
  rcases hrun : m.runIn s with ⟨e | a, s'⟩
  · exact herror e s' hrun
  · exact hok a s' hrun

@[simp] lemma runIn_map (f : α → β) (m : Staging γ α) :
    (f <$> m).runIn s = ((m.runIn s).1.map f, (m.runIn s).2) := by
  rw [← bind_pure_comp, runIn_bind]
  rcases m.runIn s with ⟨_ | _, _⟩ <;> rfl

@[simp] lemma runIn_fail (f : Failure) :
    (fail f : Staging γ α).runIn s = (.error (.failed f), s) := rfl

@[simp] lemma runIn_throw (e : Abort) :
    (throw e : Staging γ α).runIn s = (.error e, s) := rfl

@[simp] lemma runIn_check_error (f : Failure) :
    (check (.error f) : Staging γ α).runIn s = (.error (.failed f), s) := rfl

@[simp] lemma runIn_tx : (tx : Staging γ Transaction).runIn s = (.ok s.tx, s) := rfl

@[simp] lemma runIn_setTx (t : Transaction) :
    (setTx t).runIn s = (.ok (), { s with tx := t }) := rfl

@[simp] lemma runIn_log (r : TxId → LogRecord) :
    (log r).runIn s = (.ok (), { s with log := s.log ++ [r s.tx.stamp.tx] }) := rfl

@[simp] lemma runIn_granted_ok (c : Capability) :
    (granted (.ok c) : Staging γ Capability).runIn s = (.ok c, s) := rfl

lemma runIn_granted_error (f : Failure) :
    (granted (.error f) : Staging γ Capability).runIn s =
      (.error (.failed f), { s with log := s.log ++ (LogRecord.denial? f).toList }) := by
  cases h : LogRecord.denial? f <;> simp [granted, h]

@[simp] lemma runIn_pay [Payer γ] (i : Instruction) :
    (pay i : Staging γ Verdict).runIn s =
      (.ok (Payer.pay s.payer i).1, { s with payer := (Payer.pay s.payer i).2 }) := rfl

@[simp] lemma upsert_deposit (o : Overlay depositSchema) (d : Deposit) :
    o.upsert d = .ok (o.stage d) :=
  o.upsert_of_no_index rfl d

lemma runIn_credit (account : Account) (amount : UInt64) :
    (credit account amount).runIn s =
      match (s.tx.depositOf account).credited amount with
      | .ok d => (.ok d.amount, { s with
          tx := s.tx.withDeposit d
          log := s.log ++ [.creditStaged s.tx.stamp.tx account amount d.amount] })
      | .error f => (.error (.failed f), s) := by
  rw [Transaction.depositOf]
  cases h : ((s.tx.deposits.get? account).getD (.empty account)).credited amount with
  | ok d => simp [credit, h, upsertDeposit, Transaction.withDeposit, Except.map]
  | error f => simp [credit, h]

lemma runIn_debit_known {account : Account} {d : Deposit}
    (hd : s.tx.deposits.get? account = some d) (amount : UInt64) :
    (debit account amount).runIn s =
      match d.debited amount with
      | .ok d => (.ok d.amount, { s with
          tx := s.tx.withDeposit d
          log := s.log ++ [.debitStaged s.tx.stamp.tx account amount d.amount] })
      | .error f => (.error (.failed f), s) := by
  cases h : d.debited amount with
  | ok d' => simp [debit, hd, h, upsertDeposit, Transaction.withDeposit, Except.map]
  | error f => simp [debit, hd, h]

lemma runIn_debit_unknown {account : Account} (hd : s.tx.deposits.get? account = none)
    (amount : UInt64) :
    (debit account amount).runIn s =
      match (Deposit.empty account).debited amount with
      | .ok d => (.ok d.amount, s)
      | .error f => (.error (.failed f), s) := by
  cases h : (Deposit.empty account).debited amount <;> simp [debit, hd, h, Except.map]

lemma runIn_allocateOrderId :
    allocateOrderId.runIn s =
      if HasNext s.tx.orders.nextSeq then
        (.ok ⟨s.tx.orders.nextSeq⟩, { s with
          tx := { s.tx with
            orders := { s.tx.orders with nextSeq := s.tx.orders.nextSeq + 1 } } })
      else (.error (.failed (.idSpaceExhausted "order")), s) := by
  by_cases h : HasNext s.tx.orders.nextSeq
  · have ha : s.tx.orders.allocate = .ok (s.tx.orders.nextSeq,
        { s.tx.orders with nextSeq := s.tx.orders.nextSeq + 1 }) := if_pos h
    simp [allocateOrderId, ha, h, Except.map]
  · have ha : s.tx.orders.allocate = .error (.idSpaceExhausted "order") := if_neg h
    simp [allocateOrderId, ha, h]

lemma runIn_allocateCheckpointId :
    allocateCheckpointId.runIn s =
      if HasNext s.tx.checkpoints.nextSeq then
        (.ok ⟨s.tx.checkpoints.nextSeq⟩, { s with
          tx := { s.tx with
            checkpoints := { s.tx.checkpoints with nextSeq := s.tx.checkpoints.nextSeq + 1 } } })
      else (.error (.failed (.idSpaceExhausted "checkpoint")), s) := by
  by_cases h : HasNext s.tx.checkpoints.nextSeq
  · have ha : s.tx.checkpoints.allocate = .ok (s.tx.checkpoints.nextSeq,
        { s.tx.checkpoints with nextSeq := s.tx.checkpoints.nextSeq + 1 }) := if_pos h
    simp [allocateCheckpointId, ha, h, Except.map]
  · have ha : s.tx.checkpoints.allocate = .error (.idSpaceExhausted "checkpoint") := if_neg h
    simp [allocateCheckpointId, ha, h]

lemma runIn_insertOrder_eq (o : Order) :
    (insertOrder o).runIn s =
      match s.tx.orders.insert o with
      | .ok orders => (.ok (), { s with tx := { s.tx with orders } })
      | .error f => (.error (.failed f), s) := by
  cases h : s.tx.orders.insert o <;> simp [insertOrder, h]

lemma runIn_insertOrder {o : Order} (h : s.tx.orders.get? o.id = none) :
    (insertOrder o).runIn s =
      (.ok (), { s with tx := { s.tx with orders := s.tx.orders.stage o } }) := by
  have hi : s.tx.orders.insert o = .ok (s.tx.orders.stage o) :=
    s.tx.orders.insert_of_no_index rfl h
  rw [runIn_insertOrder_eq, hi]

lemma runIn_insertCheckpoint_eq (c : Checkpoint) :
    (insertCheckpoint c).runIn s =
      match s.tx.checkpoints.insert c with
      | .ok checkpoints => (.ok (), { s with tx := { s.tx with checkpoints } })
      | .error f => (.error (.failed f), s) := by
  cases h : s.tx.checkpoints.insert c <;> simp [insertCheckpoint, h]

lemma runIn_insertCheckpoint {c : Checkpoint} (h : s.tx.checkpoints.get? c.id = none)
    (hu : s.tx.checkpoints.findUnique? c.root.bytes = none) :
    (insertCheckpoint c).runIn s =
      (.ok (), { s with tx := { s.tx with checkpoints := s.tx.checkpoints.stage c } }) := by
  have hi : s.tx.checkpoints.insert c = .ok (s.tx.checkpoints.stage c) :=
    s.tx.checkpoints.insert_of_index checkpointSchema_index h hu
  rw [runIn_insertCheckpoint_eq, hi]

lemma validateRoot_eq_ok_iff {root : Root} {maxBytes : UInt64} :
    validateRoot root maxBytes = .ok () ↔ root.size ≠ 0 ∧ ¬ maxBytes.toNat < root.size := by
  simp only [validateRoot]
  split_ifs <;> simp_all

def heed (receiver : Account) (amount balance : UInt64) : Verdict → Staging γ Unit
  | .accepted => log fun tx => .withdrawalStaged tx receiver amount balance
  | .rejected reason => do
    log fun tx => .transferRejected tx receiver amount reason
    fail (.transferRejected receiver amount reason)
  | .panicked => throw .panicked

lemma withdraw_eq [Payer γ] (c : Capability) (receiver : Account) (amount : UInt64) :
    (withdraw c receiver amount : Staging γ Unit) = tx >>= fun t =>
      check (c.ensure .withdraw t.owner) >>= fun _ => debit t.owner amount >>= fun balance =>
        emit (.withdrawn receiver amount) >>= fun _ =>
          pay ⟨receiver, amount⟩ >>= heed receiver amount balance := rfl

lemma runIn_emit_eq (kind : EventKind) :
    (emit kind).runIn s =
      if s.tx.audited then
        match s.tx.events.allocate with
        | .error f => (.error (.failed f), s)
        | .ok (seq, events) =>
          match events.insert (.chained seq s.tx.stamp kind (s.tx.digestBefore seq)) with
          | .error f => (.error (.failed f), { s with tx := { s.tx with events } })
          | .ok events => (.ok (), { s with tx := { s.tx with events } })
      else (.ok (), s) := by
  cases ha : s.tx.audited with
  | false => simp [emit, ha]
  | true =>
    rcases hall : s.tx.events.allocate with f | ⟨seq, events⟩
    · simp [emit, ha, hall]
    · cases hins : events.insert (.chained seq s.tx.stamp kind (s.tx.digestBefore seq)) <;>
        simp [emit, ha, hall, hins]

lemma runIn_emit (h : s.tx.events.get? s.tx.events.nextSeq = none) (kind : EventKind) :
    (emit kind).runIn s =
      if s.tx.audited ∧ ¬ HasNext s.tx.events.nextSeq then
        (.error (.failed (.idSpaceExhausted "event")), s)
      else (.ok (), { s with tx := s.tx.noting kind }) := by
  cases ha : s.tx.audited with
  | false => simp [emit, ha, Transaction.noting]
  | true =>
    by_cases hn : HasNext s.tx.events.nextSeq
    · have hall : s.tx.events.allocate = .ok (s.tx.events.nextSeq,
          { s.tx.events with nextSeq := s.tx.events.nextSeq + 1 }) := if_pos hn
      have hins : ∀ e : Event, e.seq = s.tx.events.nextSeq →
          { s.tx.events with nextSeq := s.tx.events.nextSeq + 1 }.insert e =
            .ok ({ s.tx.events with nextSeq := s.tx.events.nextSeq + 1 }.stage e) :=
        fun e he => Overlay.insert_of_no_index _ rfl (he ▸ h)
      simp [emit, ha, hall, hins, Event.chained, hn, Transaction.noting]
    · have hall : s.tx.events.allocate = .error (.idSpaceExhausted "event") := if_neg hn
      simp [emit, ha, hall, hn]

end Staging

namespace Books

variable {b : Books} {stamp : Stamp} {audited : Bool}

lemma apply_begin : b.apply (Transaction.begin stamp b audited).changes = b := by
  simp [apply, Transaction.changes, Transaction.begin]

lemma apply_withDeposit (d : Deposit) :
    b.apply ((Transaction.begin stamp b audited).withDeposit d).changes =
      b.setBalance d.account d.amount := by
  have hd : b.deposits.apply ((Overlay.begin b.deposits).stage d).writeSet =
      b.deposits.enter d b.deposits.nextSeq := b.deposits.apply_stage rfl d
  simp [apply, Transaction.changes, Transaction.begin, Transaction.withDeposit, hd, setBalance]

lemma apply_withOrder {t : Transaction} (ht : t.orders = .begin b.orders) (o : Order)
    (next : UInt64) :
    b.apply { t with orders := { t.orders with nextSeq := next }.stage o }.changes =
      { b.apply t.changes with orders := b.orders.enter o next } := by
  have ho : b.orders.apply ({ t.orders with nextSeq := next }.stage o).writeSet =
      b.orders.enter o next := by
    rw [ht]
    exact b.orders.apply_stage rfl o
  rw [← ho]
  rfl

lemma apply_withCheckpoint {t : Transaction} (ht : t.checkpoints = .begin b.checkpoints)
    (c : Checkpoint) (next : UInt64) :
    b.apply { t with checkpoints := { t.checkpoints with nextSeq := next }.stage c }.changes =
      { b.apply t.changes with checkpoints := b.checkpoints.enter c next } := by
  have hc : b.checkpoints.apply ({ t.checkpoints with nextSeq := next }.stage c).writeSet =
      b.checkpoints.enter c next := by
    rw [ht]
    exact b.checkpoints.apply_stage rfl c
  rw [← hc]
  rfl

lemma apply_noting (h : b.Sound) {t : Transaction} {kind : EventKind}
    (he : t.events = .begin b.events) (hc : b.apply t.changes = b.carryOut kind) :
    b.apply (t.noting kind).changes = b.enact t.audited t.stamp kind := by
  cases ha : t.audited with
  | false => simpa [Transaction.noting, ha, enact] using hc
  | true =>
    -- No event is staged yet, so the one to come is chained to the last that was committed.
    have hdigest : t.digestBefore t.events.nextSeq = digestAfter genesis b.events.rows := by
      have hs : eventSchema.Serial t.events.rows t.events.nextSeq := he ▸ h.events
      rw [Transaction.digestBefore_next (he ▸ Overlay.Ordered.begin h.events.ascending) hs, he]
      rfl
    have hevents : b.events.apply (t.noting kind).changes.events =
        ((b.carryOut kind).chronicle t.stamp kind).events := by
      have hnext : t.events.nextSeq = b.events.nextSeq := by rw [he]; rfl
      simp only [chronicle, carryOut_events, ← hdigest, ← hnext]
      simp only [Transaction.noting, ha, if_true, Transaction.changes]
      exact b.events.apply_stage (by rw [he]; rfl) _
    have hrest : b.apply (t.noting kind).changes =
        { b.apply t.changes with events := b.events.apply (t.noting kind).changes.events } := by
      simp [apply, Transaction.changes, Transaction.noting, ha]
    rw [hrest, hevents, hc]
    rfl

end Books

end Depository
