import Depository.Ledger.Basic
import Depository.Proofs.Calls

/-! The stamp of a request goes into its event and nowhere else: putting one stamp on all events
after the request is the same as putting it on those before and on the request. -/

namespace Depository

open Store

variable (z : Stamp)

namespace Event

def restamp (e : Event) : Event :=
  { e with stamp := z }

lemma find?_restamp (seq : UInt64) (es : List Event) :
    eventSchema.find? seq (es.map (restamp z)) = (eventSchema.find? seq es).map (restamp z) :=
  List.find?_map

lemma put_restamp (e : Event) (es : List Event) :
    eventSchema.put (e.restamp z) (es.map (restamp z)) =
      (eventSchema.put e es).map (restamp z) := by
  induction es with
  | nil => rfl
  | cons x xs ih =>
    have hkeys : compare (eventSchema.key (e.restamp z)) (eventSchema.key (x.restamp z)) =
        compare (eventSchema.key e) (eventSchema.key x) := rfl
    rw [List.map_cons, Schema.put, Schema.put, hkeys]
    cases compare (eventSchema.key e) (eventSchema.key x) with
    | lt | eq => rfl
    | gt => exact congrArg (x.restamp z :: ·) ih

lemma foldl_put_restamp (ws es : List Event) :
    (ws.map (restamp z)).foldl (fun es e => eventSchema.put e es) (es.map (restamp z)) =
      (ws.foldl (fun es e => eventSchema.put e es) es).map (restamp z) := by
  induction ws generalizing es with
  | nil => rfl
  | cons w ws ih =>
    rw [List.map_cons, List.foldl_cons, List.foldl_cons, put_restamp, ih]

end Event

def Store.Table.restamp (t : Table eventSchema) : Table eventSchema :=
  { t with rows := t.rows.map (Event.restamp z) }

namespace Store.Overlay

variable (o : Overlay eventSchema)

def restamp : Overlay eventSchema :=
  { o with base := o.base.restamp z, writes := o.writes.map (Event.restamp z) }

lemma get?_restamp (seq : UInt64) : (o.restamp z).get? seq = (o.get? seq).map (Event.restamp z) := by
  have hget : ∀ o : Overlay eventSchema, o.get? seq =
      (eventSchema.find? seq o.writes <|> eventSchema.find? seq o.base.rows) := fun _ => rfl
  rw [hget, hget, restamp, Table.restamp, Event.find?_restamp, Event.find?_restamp]
  cases eventSchema.find? seq o.writes <;> rfl

lemma allocate_restamp :
    (o.restamp z).allocate = o.allocate.map fun (seq, o) => (seq, o.restamp z) := by
  by_cases hroom : o.nextSeq.toNat + 1 < UInt64.size
  · rw [allocate, allocate, if_pos hroom]
    exact if_pos hroom
  · rw [allocate, allocate, if_neg hroom]
    exact if_neg hroom

lemma insert_restamp (e : Event) :
    (o.restamp z).insert (e.restamp z) = (o.insert e).map (restamp z) := by
  have hget : (o.restamp z).get? (eventSchema.key (e.restamp z)) =
      (o.get? (eventSchema.key e)).map (Event.restamp z) := o.get?_restamp z e.seq
  rw [insert, insert, hget]
  cases o.get? (eventSchema.key e) with
  | some x => rfl
  | none =>
    rw [Option.map_none]
    dsimp only
    rw [upsert_of_no_index _ rfl, upsert_of_no_index _ rfl, Except.map, stage, stage, restamp,
      restamp, Event.put_restamp]
    rfl

end Store.Overlay

namespace Transaction

def restamp (t : Transaction) : Transaction :=
  { t with stamp := z, events := t.events.restamp z }

lemma digestBefore_restamp (t : Transaction) (seq : UInt64) :
    (t.restamp z).digestBefore seq = t.digestBefore seq := by
  have hget : (t.restamp z).events.get? (seq - 1) =
      (t.events.get? (seq - 1)).map (Event.restamp z) := t.events.get?_restamp z (seq - 1)
  rw [digestBefore, digestBefore, hget, Option.map_map]
  rfl

end Transaction

def Session.restamp {γ : Type} (s : Session γ) : Session γ :=
  { s with tx := s.tx.restamp z, log := s.log.map (LogRecord.restamp z.tx) }

namespace Staging

variable {γ α β : Type}

def Restamps (m : Staging γ α) : Prop :=
  ∀ s, m.runIn (s.restamp z) = ((m.runIn s).1, (m.runIn s).2.restamp z)

variable {z}

lemma Restamps.bind {m : Staging γ α} {f : α → Staging γ β} (hm : Restamps z m)
    (hf : ∀ a, Restamps z (f a)) : Restamps z (m >>= f) := by
  intro s
  rw [runIn_bind, runIn_bind, hm s]
  rcases m.runIn s with ⟨e | a, s'⟩
  · rfl
  · exact hf a s'

lemma restamps_log {r : TxId → LogRecord} (hr : ∀ tx tx', (r tx).restamp tx' = r tx') :
    Restamps z (log r : Staging γ Unit) := by
  intro s
  rw [runIn_log, runIn_log, Session.restamp, Session.restamp, List.map_append, List.map_singleton,
    hr]
  rfl

lemma restamps_emit (kind : EventKind) : Restamps z (emit kind : Staging γ Unit) := by
  intro s
  have haudited : (s.restamp z).tx.audited = s.tx.audited := rfl
  have hevents : (s.restamp z).tx.events = s.tx.events.restamp z := rfl
  have hdigest : (s.restamp z).tx.digestBefore = s.tx.digestBefore :=
    funext fun seq => s.tx.digestBefore_restamp z seq
  have hstamp : (s.restamp z).tx.stamp = z := rfl
  rw [runIn_emit_eq, runIn_emit_eq, haudited, hevents, hdigest, hstamp, Overlay.allocate_restamp]
  split
  · rcases s.tx.events.allocate with f | ⟨seq, events⟩
    · rfl
    · have hinsert := events.insert_restamp z
        (.chained seq s.tx.stamp kind (s.tx.digestBefore seq))
      simp only [Except.map]
      rw [Event.restamp, Event.chained] at hinsert
      rw [Event.chained, hinsert, Event.chained]
      rcases events.insert _ with f | events <;> rfl
  · rfl

lemma restamps_credit (account : Account) (amount : UInt64) :
    Restamps z (credit account amount : Staging γ UInt64) := by
  intro s
  have hdeposit : (s.restamp z).tx.depositOf account = s.tx.depositOf account := rfl
  rw [runIn_credit, runIn_credit, hdeposit]
  cases (s.tx.depositOf account).credited amount with
  | ok d =>
    simp only [Session.restamp, List.map_append]
    rfl
  | error f => rfl

lemma restamps_debit (account : Account) (amount : UInt64) :
    Restamps z (debit account amount : Staging γ UInt64) := by
  intro s
  have hget : (s.restamp z).tx.deposits.get? account = s.tx.deposits.get? account := rfl
  cases hd : s.tx.deposits.get? account with
  | none =>
    rw [runIn_debit_unknown _ hd, runIn_debit_unknown _ (hget.trans hd)]
    split <;> rfl
  | some d =>
    rw [runIn_debit_known _ hd, runIn_debit_known _ (hget.trans hd)]
    cases d.debited amount with
    | ok d =>
      simp only [Session.restamp, List.map_append]
      rfl
    | error f => rfl

lemma restamps_stable [Payer γ] : Stable (Restamps (γ := γ) z) where
  pure _ _ := rfl
  throw _ _ := rfl
  bind := Restamps.bind
  log _ hr := restamps_log hr
  owner _ := rfl
  findRoot _ _ := rfl
  credit := restamps_credit
  debit := restamps_debit
  allocateOrderId s := by
    have hnext : (s.restamp z).tx.orders = s.tx.orders := rfl
    rw [runIn_allocateOrderId, runIn_allocateOrderId, hnext]
    split <;> rfl
  insertOrder o s := by
    have horders : (s.restamp z).tx.orders = s.tx.orders := rfl
    rw [runIn_insertOrder_eq, runIn_insertOrder_eq, horders]
    split <;> rfl
  allocateCheckpointId s := by
    have hnext : (s.restamp z).tx.checkpoints = s.tx.checkpoints := rfl
    rw [runIn_allocateCheckpointId, runIn_allocateCheckpointId, hnext]
    split <;> rfl
  insertCheckpoint c s := by
    have hcheckpoints : (s.restamp z).tx.checkpoints = s.tx.checkpoints := rfl
    rw [runIn_insertCheckpoint_eq, runIn_insertCheckpoint_eq, hcheckpoints]
    split <;> rfl
  emit := restamps_emit
  pay _ _ := rfl

end Staging

def Books.restamp (b : Books) : Books :=
  { b with events := b.events.restamp z }

lemma Books.apply_restamp (b : Books) (t : Transaction) :
    (b.restamp z).apply (t.restamp z).changes = (b.apply t.changes).restamp z := by
  have hevents : (b.events.restamp z).apply (t.events.restamp z).writeSet =
      (b.events.apply t.events.writeSet).restamp z := by
    have hrows := Event.foldl_put_restamp z t.events.writes b.events.rows
    simp only [Table.apply, Table.restamp, Overlay.writeSet, Overlay.restamp, hrows]
    rfl
  rw [apply, restamp, restamp, apply, Transaction.changes, Transaction.changes]
  exact congrArg (fun events => { b.apply t.changes with events := events }) hevents

lemma Transaction.report_restamp (t : Transaction) :
    (t.restamp z).changes.logRecords = t.changes.logRecords ∧
      (t.restamp z).changes.rowsWritten = t.changes.rowsWritten := by
  have hlength : (t.restamp z).changes.events.rows.length = t.changes.events.rows.length :=
    List.length_map _
  constructor
  · simp only [Changes.logRecords, WriteSet.logRecord, hlength]
    rfl
  · simp only [Changes.rowsWritten, hlength]
    rfl

def Ledger.restamp {γ : Type} (l : Ledger γ) : Ledger γ :=
  { l with books := l.books.restamp z }

def Performed.restamp {γ : Type} (p : Performed γ) : Performed γ :=
  { p with ledger := p.ledger.restamp z, log := p.log.map (LogRecord.restamp z.tx) }

namespace Ledger

variable {γ : Type} [Payer γ] (l : Ledger γ) (stamp stamp' : Stamp) (caller : Account)
  (r : Request)

lemma perform_restamp :
    (l.restamp z).perform z caller r = (l.perform stamp caller r).restamp z := by
  have hattempt := (Staging.restamps_stable (γ := γ) (z := z)).attempt (fun _ _ => rfl)
    l.settings.maxRootBytes caller r (l.session stamp)
  have hrun : (r.attempt l.settings.maxRootBytes caller).run ((l.restamp z).session z) =
      (r.attempt l.settings.maxRootBytes caller).runIn ((l.session stamp).restamp z) := rfl
  have hrun' : (r.attempt l.settings.maxRootBytes caller).run (l.session stamp) =
      (r.attempt l.settings.maxRootBytes caller).runIn (l.session stamp) := rfl
  have hsettings : (l.restamp z).settings = l.settings := rfl
  rw [perform, perform, hsettings, hrun, hattempt, hrun']
  rcases (r.attempt l.settings.maxRootBytes caller).runIn (l.session stamp) with
    ⟨(f | _) | reply, s⟩
  · simp only [Session.restamp, Performed.restamp, List.map_append]
    rfl
  · rfl
  · obtain ⟨hlog, hrows⟩ := s.tx.report_restamp z
    have hbooks := l.books.apply_restamp z s.tx
    simp only [Session.restamp, Performed.restamp, List.map_append, hlog, hrows]
    exact congrArg (fun books => Performed.mk _ ⟨books, _, _⟩ _) hbooks

lemma perform_restamped :
    (l.perform stamp caller r).restamp z = (l.perform stamp' caller r).restamp z := by
  -- Either is the request on the ledger as it looks when all events have the one stamp.
  rw [← perform_restamp, ← perform_restamp]

end Ledger

end Depository
