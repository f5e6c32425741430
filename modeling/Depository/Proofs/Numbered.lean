import Depository.Proofs.Grouping

namespace Depository

open Store

namespace Transaction

def skipOrder (t : Transaction) : Transaction :=
  { t with orders := { t.orders with nextSeq := t.orders.nextSeq + 1 } }

def skipCheckpoint (t : Transaction) : Transaction :=
  { t with checkpoints := { t.checkpoints with nextSeq := t.checkpoints.nextSeq + 1 } }

def placing (t : Transaction) (o : Order) (balance : UInt64) : Transaction :=
  { t.skipOrder with orders := t.skipOrder.orders.stage o }.noting
    (.orderPlaced o.id o.owner o.price o.amount o.value balance)

def recording (t : Transaction) (c : Checkpoint) : Transaction :=
  { t.skipCheckpoint with checkpoints := t.skipCheckpoint.checkpoints.stage c }.noting
    (.checkpointRecorded c.id c.root)

/-- The transaction was begun on the given books. The orders and checkpoints that it shows have ids
below the next one, perhaps with gaps, and its events have none. -/
structure InOrder (t : Transaction) (b : Books) (audited : Bool) : Prop extends
    Over t b audited where
  ordersBelow : orderSchema.Below t.orders.rows t.orders.nextSeq
  checkpointsBelow : checkpointSchema.Below t.checkpoints.rows t.checkpoints.nextSeq
  eventsSerial : eventSchema.Serial t.events.rows t.events.nextSeq

namespace InOrder

variable {t : Transaction} {b : Books} {audited : Bool} (h : t.InOrder b audited)

include h

lemma fresh_order : t.orders.get? ⟨t.orders.nextSeq⟩ = none :=
  (h.orders.get?_eq _).trans h.ordersBelow.find?_next

lemma fresh_checkpoint : t.checkpoints.get? ⟨t.checkpoints.nextSeq⟩ = none :=
  (h.checkpoints.get?_eq _).trans h.checkpointsBelow.find?_next

lemma fresh_event : t.events.get? t.events.nextSeq = none :=
  (h.events.get?_eq _).trans h.eventsSerial.find?_next

lemma withDeposit (d : Deposit) : (t.withDeposit d).InOrder b audited :=
  { h with deposits := h.deposits.stage_of_no_index rfl d }

lemma setOwner (owner : Account) : { t with stagedOwner := some owner }.InOrder b audited :=
  { h with }

lemma skipOrder (hn : HasNext t.orders.nextSeq) : t.skipOrder.InOrder b audited :=
  { h with
    orders := h.orders.setNext _
    ordersBelow := h.ordersBelow.skip hn }

lemma skipCheckpoint (hn : HasNext t.checkpoints.nextSeq) : t.skipCheckpoint.InOrder b audited :=
  { h with
    checkpoints := h.checkpoints.setNext _
    checkpointsBelow := h.checkpointsBelow.skip hn }

lemma stageOrder (hn : HasNext t.orders.nextSeq) {o : Order} (ho : o.id = ⟨t.orders.nextSeq⟩) :
    { t.skipOrder with orders := t.skipOrder.orders.stage o }.InOrder b audited := by
  have hskip := h.skipOrder hn
  have hput : orderSchema.put o t.orders.rows = t.orders.rows ++ [o] := h.ordersBelow.put ho
  have hrows : (t.skipOrder.orders.stage o).rows = t.orders.rows ++ [o] :=
    (hskip.orders.ordered.rows_stage o).trans hput
  refine { hskip with orders := hskip.orders.stage_of_no_index rfl o, ordersBelow := ?_ }
  rw [hrows]
  exact h.ordersBelow.append ho hn

lemma stageCheckpoint (hn : HasNext t.checkpoints.nextSeq) {c : Checkpoint}
    (hc : c.id = ⟨t.checkpoints.nextSeq⟩) (hfree : t.checkpoints.findUnique? c.root.bytes = none) :
    { t.skipCheckpoint with checkpoints := t.skipCheckpoint.checkpoints.stage c }.InOrder b
      audited := by
  have hskip := h.skipCheckpoint hn
  have hput : checkpointSchema.put c t.checkpoints.rows = t.checkpoints.rows ++ [c] :=
    h.checkpointsBelow.put hc
  have hrows : (t.skipCheckpoint.checkpoints.stage c).rows = t.checkpoints.rows ++ [c] :=
    (hskip.checkpoints.ordered.rows_stage c).trans hput
  refine { hskip with checkpoints := hskip.checkpoints.stage ?_, checkpointsBelow := ?_ }
  · intro index hi x hx hk
    have hfind := (h.checkpoints.findUnique?_eq_some_iff hi).mpr ⟨hx, hk⟩
    obtain rfl : index = rootIndex := Option.some.inj (hi.symm.trans checkpointSchema_index)
    cases hfree.symm.trans hfind
  · rw [hrows]
    exact h.checkpointsBelow.append hc hn

lemma digestBefore_next :
    t.digestBefore t.events.nextSeq = digestAfter genesis t.events.rows :=
  Transaction.digestBefore_next h.events.ordered h.eventsSerial

lemma noting_rows (kind : EventKind) :
    (t.noting kind).events.rows = t.events.rows ++ if t.audited then
      [.chained t.events.nextSeq t.stamp kind (digestAfter genesis t.events.rows)] else [] := by
  cases ha : t.audited with
  | false => simp [Transaction.noting, ha]
  | true =>
    have hskip := h.events.setNext (t.events.nextSeq + 1)
    simp only [Transaction.noting, ha, if_true]
    rw [hskip.ordered.rows_stage, h.digestBefore_next]
    exact h.eventsSerial.put rfl

lemma noting (hn : t.audited = true → HasNext t.events.nextSeq) (kind : EventKind) :
    (t.noting kind).InOrder b audited := by
  have hrows := h.noting_rows kind
  have hskip := h.events.setNext (t.events.nextSeq + 1)
  cases ha : t.audited with
  | false => simpa [Transaction.noting, ha] using h
  | true =>
    simp only [Transaction.noting, ha, if_true] at hrows ⊢
    refine { h with
      events := hskip.stage_of_no_index rfl _
      audited := ha.symm.trans h.audited
      eventsSerial := ?_ }
    rw [hrows]
    exact h.eventsSerial.append rfl (hn ha)

lemma placing (hn : HasNext t.orders.nextSeq) (he : t.audited = true → HasNext t.events.nextSeq)
    {o : Order} (ho : o.id = ⟨t.orders.nextSeq⟩) (balance : UInt64) :
    (t.placing o balance).InOrder b audited :=
  (h.stageOrder hn ho).noting he _

lemma recording (hn : HasNext t.checkpoints.nextSeq)
    (he : t.audited = true → HasNext t.events.nextSeq) {c : Checkpoint}
    (hc : c.id = ⟨t.checkpoints.nextSeq⟩) (hfree : t.checkpoints.findUnique? c.root.bytes = none) :
    (t.recording c).InOrder b audited :=
  (h.stageCheckpoint hn hc hfree).noting he _

lemma begin_apply (stamp : Stamp) (audited' : Bool) :
    (Transaction.begin stamp (b.apply t.changes) audited').InOrder (b.apply t.changes)
      audited' := by
  have horders : (b.apply t.changes).orders.rows = t.orders.rows := h.orders.rows_apply
  have hcheckpoints : (b.apply t.changes).checkpoints.rows = t.checkpoints.rows :=
    h.checkpoints.rows_apply
  have hevents : (b.apply t.changes).events.rows = t.events.rows := h.events.rows_apply
  refine { Over.begin h.settled_apply stamp audited' with
    ordersBelow := ?_, checkpointsBelow := ?_, eventsSerial := ?_ }
  · change orderSchema.Below (b.apply t.changes).orders.rows _
    exact horders ▸ h.ordersBelow
  · change checkpointSchema.Below (b.apply t.changes).checkpoints.rows _
    exact hcheckpoints ▸ h.checkpointsBelow
  · change eventSchema.Serial (b.apply t.changes).events.rows _
    exact hevents ▸ h.eventsSerial

end InOrder

end Transaction

namespace Staging

variable {γ α β : Type} {s : Session γ} {b : Books} {audited : Bool}

lemma runIn_emit_noting (h : s.tx.InOrder b audited)
    (he : s.tx.audited = true → HasNext s.tx.events.nextSeq) (kind : EventKind) :
    (emit kind).runIn s = (.ok (), { s with tx := s.tx.noting kind }) := by
  rw [runIn_emit s h.fresh_event, if_neg]
  exact fun hn => hn.2 (he hn.1)

lemma runIn_emit_exhausted (h : s.tx.InOrder b audited)
    (he : ¬ (s.tx.audited = true → HasNext s.tx.events.nextSeq)) (kind : EventKind) :
    (emit kind).runIn s = (.error (.failed (.idSpaceExhausted "event")), s) := by
  rw [runIn_emit s h.fresh_event, if_pos (Classical.not_imp.mp he)]

lemma runIn_fileOrder_unnumbered (hn : ¬ HasNext s.tx.orders.nextSeq) (request : OrderRequest)
    (balance : UInt64) :
    (fileOrder request balance).runIn s =
      (.error (.failed (.idSpaceExhausted "order")), s) := by
  rw [fileOrder, runIn_bind, runIn_allocateOrderId, if_neg hn]

lemma runIn_fileOrder (h : s.tx.InOrder b audited) (hn : HasNext s.tx.orders.nextSeq)
    (request : OrderRequest) (balance : UInt64) :
    let o := request.toOrder ⟨s.tx.orders.nextSeq⟩
    (fileOrder request balance).runIn s =
      if s.tx.audited = true → HasNext s.tx.events.nextSeq then
        (.ok o.id, { s with
          tx := s.tx.placing o balance
          log := s.log ++ [.orderStaged s.tx.stamp.tx o] })
      else (.error (.failed (.idSpaceExhausted "event")), { s with tx := s.tx.skipOrder }) := by
  intro o
  have hallocate : allocateOrderId.runIn s = (.ok o.id, { s with tx := s.tx.skipOrder }) :=
    (runIn_allocateOrderId s).trans (if_pos hn)
  have hskip : (Session.mk s.tx.skipOrder s.payer s.log).tx.InOrder b audited := h.skipOrder hn
  rw [fileOrder, runIn_bind, hallocate]
  change ((emit (.orderPlaced o.id o.owner o.price o.amount o.value balance) >>= fun _ =>
    (log fun tx => .orderStaged tx o) >>= fun _ => insertOrder o >>= fun _ => pure o.id).runIn
      { s with tx := s.tx.skipOrder }) = _
  rw [runIn_bind]
  by_cases he : s.tx.audited = true → HasNext s.tx.events.nextSeq
  · -- The event touches no order, so the id is still free when the row is entered.
    have hfree : (s.tx.skipOrder.noting
        (.orderPlaced o.id o.owner o.price o.amount o.value balance)).orders.get? o.id = none := by
      rw [Transaction.noting_orders]
      exact h.fresh_order
    rw [if_pos he, runIn_emit_noting hskip he]
    dsimp only
    rw [runIn_bind, runIn_log]
    dsimp only
    rw [runIn_bind, runIn_insertOrder _ hfree, Transaction.noting_orders,
      Transaction.noting_setOrders, Transaction.noting_stamp]
    rfl
  · rw [if_neg he, runIn_emit_exhausted hskip he]

lemma runIn_enterRoot_unnumbered (hn : ¬ HasNext s.tx.checkpoints.nextSeq) (root : Root) :
    (enterRoot root).runIn s = (.error (.failed (.idSpaceExhausted "checkpoint")), s) := by
  rw [enterRoot, runIn_bind, runIn_allocateCheckpointId, if_neg hn]

lemma runIn_enterRoot (h : s.tx.InOrder b audited) (hn : HasNext s.tx.checkpoints.nextSeq)
    {root : Root} (hu : s.tx.checkpoints.findUnique? root.bytes = none) :
    let c : Checkpoint := ⟨⟨s.tx.checkpoints.nextSeq⟩, root⟩
    (enterRoot root).runIn s =
      if s.tx.audited = true → HasNext s.tx.events.nextSeq then
        (.ok c.id, { s with tx := s.tx.recording c })
      else (.error (.failed (.idSpaceExhausted "event")), { s with tx := s.tx.skipCheckpoint }) := by
  intro c
  have hallocate : allocateCheckpointId.runIn s =
      (.ok c.id, { s with tx := s.tx.skipCheckpoint }) :=
    (runIn_allocateCheckpointId s).trans (if_pos hn)
  have hskip : (Session.mk s.tx.skipCheckpoint s.payer s.log).tx.InOrder b audited :=
    h.skipCheckpoint hn
  rw [enterRoot, runIn_bind, hallocate]
  change ((emit (.checkpointRecorded c.id c.root) >>= fun _ =>
    insertCheckpoint c >>= fun _ => pure c.id).runIn { s with tx := s.tx.skipCheckpoint }) = _
  rw [runIn_bind]
  by_cases he : s.tx.audited = true → HasNext s.tx.events.nextSeq
  · have hfree : (s.tx.skipCheckpoint.noting
        (.checkpointRecorded c.id c.root)).checkpoints.get? c.id = none := by
      rw [Transaction.noting_checkpoints]
      exact h.fresh_checkpoint
    have hunique : (s.tx.skipCheckpoint.noting
        (.checkpointRecorded c.id c.root)).checkpoints.findUnique? c.root.bytes = none := by
      rw [Transaction.noting_checkpoints]
      exact hu
    have hinsert := runIn_insertCheckpoint (c := c) (Session.mk (s.tx.skipCheckpoint.noting
      (.checkpointRecorded c.id c.root)) s.payer s.log) hfree hunique
    rw [if_pos he, runIn_emit_noting hskip he]
    dsimp only
    rw [runIn_bind, hinsert, Transaction.noting_checkpoints, Transaction.noting_setCheckpoints]
    rfl
  · rw [if_neg he, runIn_emit_exhausted hskip he]

lemma runIn_fileRoot (root : Root) (maxBytes : UInt64) :
    (fileRoot root maxBytes).runIn s =
      match validateRoot root maxBytes, s.tx.checkpoints.findUnique? root.bytes with
      | .error f, _ => (.error (.failed f), s)
      | .ok _, some existing =>
        (.error (.failed (.duplicateEntry "checkpoint.root" root.toHex)), { s with
          log := s.log ++ [.duplicateRoot s.tx.stamp.tx root existing.id] })
      | .ok _, none => (enterRoot root).runIn s := by
  cases hv : validateRoot root maxBytes with
  | error f => simp [fileRoot, hv]
  | ok =>
    cases hu : s.tx.checkpoints.findUnique? root.bytes <;> simp [fileRoot, findRoot, hv, hu]

def Maintains (b : Books) (audited : Bool) (m : Staging γ α) : Prop :=
  ∀ s : Session γ, s.tx.InOrder b audited → (m.runIn s).2.tx.InOrder b audited

section Maintains

lemma Maintains.bind {m : Staging γ α} {f : α → Staging γ β} (hm : Maintains b audited m)
    (hf : ∀ a, Maintains b audited (f a)) : Maintains b audited (m >>= f) :=
  Upholds.bind (I := fun t => t.InOrder b audited) hm hf

lemma maintains_of_frame {m : Staging γ α} (h : ∀ s, (m.runIn s).2.tx = s.tx) :
    Maintains b audited m :=
  upholds_of_frame (I := fun t => t.InOrder b audited) h

lemma maintains_pure (a : α) : Maintains b audited (pure a : Staging γ α) :=
  maintains_of_frame fun _ => rfl

lemma maintains_log (r : TxId → LogRecord) : Maintains b audited (log r : Staging γ Unit) :=
  maintains_of_frame fun _ => rfl

lemma maintains_throw (e : Abort) : Maintains b audited (throw e : Staging γ α) :=
  maintains_of_frame fun _ => rfl

lemma maintains_check (x : Except Failure α) : Maintains b audited (check x : Staging γ α) := by
  cases x with
  | ok a => exact maintains_pure a
  | error f => exact maintains_throw _

lemma maintains_credit (account : Account) (amount : UInt64) :
    Maintains b audited (credit account amount : Staging γ UInt64) :=
  upholds_credit (I := fun t => t.InOrder b audited) (fun _ d h => h.withDeposit d) account amount

lemma maintains_debit (account : Account) (amount : UInt64) :
    Maintains b audited (debit account amount : Staging γ UInt64) :=
  upholds_debit (I := fun t => t.InOrder b audited) (fun _ d h => h.withDeposit d) account amount

lemma maintains_emit (kind : EventKind) :
    Maintains b audited (emit kind : Staging γ Unit) := by
  intro s hs
  by_cases he : s.tx.audited = true → HasNext s.tx.events.nextSeq
  · rw [runIn_emit_noting hs he]
    exact hs.noting he kind
  · rw [runIn_emit_exhausted hs he]
    exact hs

lemma maintains_fileOrder (request : OrderRequest) (balance : UInt64) :
    Maintains b audited (fileOrder request balance : Staging γ OrderId) := by
  intro s hs
  by_cases hn : HasNext s.tx.orders.nextSeq
  · rw [runIn_fileOrder hs hn]
    split
    case isTrue he => exact hs.placing hn he rfl balance
    case isFalse => exact hs.skipOrder hn
  · rw [runIn_fileOrder_unnumbered hn]
    exact hs

lemma maintains_fileRoot (root : Root) (maxBytes : UInt64) :
    Maintains b audited (fileRoot root maxBytes : Staging γ CheckpointId) := by
  intro s hs
  rw [runIn_fileRoot]
  cases validateRoot root maxBytes with
  | error f => exact hs
  | ok =>
    cases hu : s.tx.checkpoints.findUnique? root.bytes with
    | some existing => exact hs
    | none =>
      by_cases hn : HasNext s.tx.checkpoints.nextSeq
      · dsimp only
        rw [runIn_enterRoot hs hn hu]
        split
        case isTrue he => exact hs.recording hn he rfl hu
        case isFalse => exact hs.skipCheckpoint hn
      · dsimp only
        rw [runIn_enterRoot_unnumbered hn]
        exact hs

lemma maintains_heed (receiver : Account) (amount balance : UInt64) (verdict : Verdict) :
    Maintains b audited (heed receiver amount balance verdict : Staging γ Unit) := by
  cases verdict with
  | accepted => exact maintains_log _
  | rejected reason => exact (maintains_log _).bind fun _ => maintains_throw _
  | panicked => exact maintains_throw _

variable [Payer γ]

lemma maintains_withdraw (c : Capability) (receiver : Account) (amount : UInt64) :
    Maintains b audited (withdraw c receiver amount : Staging γ Unit) := by
  rw [withdraw_steps]
  refine (maintains_of_frame fun _ => rfl).bind fun o => (maintains_check _).bind fun _ => ?_
  refine (maintains_debit o amount).bind fun balance => (maintains_emit _).bind fun _ => ?_
  exact (maintains_of_frame fun _ => rfl).bind fun verdict => maintains_heed _ _ _ verdict

lemma maintains_call (c : Call) : Maintains b audited (c.respond : Staging γ Reply) := by
  cases c with
  | credit account amount => exact (maintains_credit _ _).bind fun _ => maintains_pure _
  | debit account amount => exact (maintains_debit _ _).bind fun _ => maintains_pure _
  | placeOrder c request =>
    refine Maintains.bind ?_ fun _ => maintains_pure _
    rw [placeOrder_steps]
    exact (maintains_check _).bind fun _ => (maintains_credit _ _).bind fun balance =>
      maintains_fileOrder request balance
  | record c root maxBytes =>
    refine Maintains.bind ?_ fun _ => maintains_pure _
    rw [recordCheckpoint_steps]
    exact (maintains_of_frame fun _ => rfl).bind fun _ => (maintains_check _).bind fun _ =>
      maintains_fileRoot root maxBytes
  | withdraw c receiver amount => exact (maintains_withdraw _ _ _).bind fun _ => maintains_pure _

lemma maintains_act (a : Act) : Maintains b audited (a.respond : Staging γ Reply) := by
  cases a with
  | call c => exact maintains_call c
  | emit kind => exact (maintains_emit kind).bind fun _ => maintains_pure _
  | setOwner owner =>
    have hset : Maintains b audited (Staging.setOwner owner : Staging γ Unit) :=
      fun s hs => hs.setOwner owner
    exact hset.bind fun _ => maintains_pure _

end Maintains

end Staging

variable {γ : Type} [Payer γ]

lemma Session.enact_inOrder {b : Books} {audited : Bool} {s : Session γ}
    (h : s.tx.InOrder b audited) (acts : List Act) : (s.enact acts).2.tx.InOrder b audited :=
  s.enact_upholds (I := fun t => t.InOrder b audited) Staging.maintains_act h acts

namespace Books

def InOrder (b : Books) : Prop :=
  ∀ stamp audited, (Transaction.begin stamp b audited).InOrder b audited

variable {b : Books}

lemma InOrder.opened (owner : Account) : InOrder { owner := owner } :=
  fun stamp audited =>
    { Transaction.Over.begin (.opened owner) stamp audited with
      ordersBelow := fun _ hr => nomatch hr
      checkpointsBelow := fun _ hr => nomatch hr
      eventsSerial := Schema.Serial.nil }

lemma InOrder.after (h : b.InOrder) (d : Deed γ) : (b.after d).InOrder := by
  have hbegin : ((Custody.mk b d.payer).session d.audited d.stamp).tx.InOrder b d.audited :=
    h d.stamp d.audited
  exact (Session.enact_inOrder hbegin d.acts).begin_apply

lemma inOrder_reached (owner : Account) (deeds : List (Deed γ)) :
    (reached owner deeds).InOrder :=
  reached_invariant (.opened owner) (fun _ d h => h.after d) deeds

end Books

end Depository
