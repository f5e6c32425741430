import Depository.Proofs.Calls
import Depository.Proofs.Store.Sheet

/-! Transactions that show the same things, whatever books they stand over: no call tells them
apart, and it leaves them showing the same things. Events count as the same whatever their stamps. -/

namespace Depository

open Store

namespace Event

variable {es fs : List Event} {e f : Event}

lemma map_contents_find? (h : es.map contents = fs.map contents) (seq : UInt64) :
    (eventSchema.find? seq es).map contents = (eventSchema.find? seq fs).map contents := by
  have hfind : ∀ es : List Event, (eventSchema.find? seq es).map contents =
      (es.map contents).find? fun c => c.1 = seq := by
    intro es
    rw [List.find?_map]
    rfl
  rw [hfind, hfind, h]

lemma map_contents_put (h : es.map contents = fs.map contents) (he : e.contents = f.contents) :
    (eventSchema.put e es).map contents = (eventSchema.put f fs).map contents := by
  induction es generalizing fs with
  | nil =>
    have hfs : fs = [] := List.map_eq_nil_iff.mp h.symm
    simp [hfs, Schema.put, he]
  | cons x xs ih =>
    obtain ⟨y, ys, rfl, hy, hys⟩ := List.map_eq_cons_iff.mp h.symm
    have hkeys : compare (eventSchema.key e) (eventSchema.key x) =
        compare (eventSchema.key f) (eventSchema.key y) := by
      have hx : x.seq = y.seq := congrArg Prod.fst hy.symm
      have hef : e.seq = f.seq := congrArg Prod.fst he
      change compare e.seq x.seq = compare f.seq y.seq
      rw [hx, hef]
    rw [Schema.put, Schema.put, hkeys]
    cases compare (eventSchema.key f) (eventSchema.key y) with
    | lt => simp [he, hy, hys]
    | eq => simp [he, hys]
    | gt => simp [hy, ih hys.symm]

end Event

structure Books.Settled (b : Books) : Prop where
  deposits : b.deposits.Settled
  orders : b.orders.Settled
  checkpoints : b.checkpoints.Settled
  events : b.events.Settled

namespace Transaction

structure Over (t : Transaction) (b : Books) (audited : Bool) : Prop where
  deposits : t.deposits.Over b.deposits
  orders : t.orders.Over b.orders
  checkpoints : t.checkpoints.Over b.checkpoints
  events : t.events.Over b.events
  owner : t.committedOwner = b.owner
  audited : t.audited = audited

structure Alike (t u : Transaction) : Prop where
  owner : t.owner = u.owner
  deposits : t.deposits.sheet = u.deposits.sheet
  orders : t.orders.sheet = u.orders.sheet
  checkpoints : t.checkpoints.sheet = u.checkpoints.sheet
  events : t.events.rows.map Event.contents = u.events.rows.map Event.contents
  nextEvent : t.events.nextSeq = u.events.nextSeq

variable {t u v : Transaction} {b : Books} {audited : Bool}

lemma Alike.trans (h : t.Alike u) (h' : u.Alike v) : t.Alike v :=
  ⟨h.owner.trans h'.owner, h.deposits.trans h'.deposits, h.orders.trans h'.orders,
    h.checkpoints.trans h'.checkpoints, h.events.trans h'.events, h.nextEvent.trans h'.nextEvent⟩

lemma Over.begin (h : b.Settled) (stamp : Stamp) (audited : Bool) :
    (Transaction.begin stamp b audited).Over b audited :=
  ⟨.begin h.deposits, .begin h.orders, .begin h.checkpoints, .begin h.events, rfl, rfl⟩

lemma Over.settled_apply (h : t.Over b audited) : (b.apply t.changes).Settled :=
  ⟨h.deposits.settled_apply, h.orders.settled_apply, h.checkpoints.settled_apply,
    h.events.settled_apply⟩

lemma Over.alike_begin (h : t.Over b audited) (stamp : Stamp) :
    t.Alike (Transaction.begin stamp (b.apply t.changes) audited) where
  owner := by
    rw [Transaction.owner, h.owner]
    rfl
  deposits := h.deposits.sheet_apply.symm
  orders := h.orders.sheet_apply.symm
  checkpoints := h.checkpoints.sheet_apply.symm
  events := congrArg (List.map Event.contents) h.events.rows_apply.symm
  nextEvent := rfl

end Transaction

structure Session.Matches {γ : Type} (b c : Books) (audited : Bool) (s s' : Session γ) :
    Prop where
  left : s.tx.Over b audited
  right : s'.tx.Over c audited
  alike : s.tx.Alike s'.tx
  payer : s.payer = s'.payer

namespace Session.Matches

variable {γ : Type} {b c : Books} {audited : Bool} {s s' : Session γ}
variable (h : Session.Matches b c audited s s')

include h

lemma deposit_eq (account : Account) :
    s.tx.deposits.get? account = s'.tx.deposits.get? account := by
  rw [h.left.deposits.get?_eq, h.right.deposits.get?_eq, h.alike.deposits]

lemma root_eq (root : Root) :
    s.tx.checkpoints.findUnique? root.bytes = s'.tx.checkpoints.findUnique? root.bytes := by
  rw [h.left.checkpoints.findUnique?_eq, h.right.checkpoints.findUnique?_eq, h.alike.checkpoints]

lemma event_eq (seq : UInt64) :
    (s.tx.events.get? seq).map Event.contents = (s'.tx.events.get? seq).map Event.contents := by
  rw [h.left.events.get?_eq, h.right.events.get?_eq]
  exact Event.map_contents_find? h.alike.events seq

lemma digestBefore_eq (seq : UInt64) : s.tx.digestBefore seq = s'.tx.digestBefore seq := by
  have hdigest : ∀ x : Option Event, x.map Event.digest =
      (x.map Event.contents).map fun c => c.2.2.2 := by
    intro x
    cases x <;> rfl
  rw [Transaction.digestBefore, Transaction.digestBefore, hdigest, hdigest, h.event_eq]

lemma withDeposit (d : Deposit) (log log' : List LogRecord) :
    Session.Matches b c audited ⟨s.tx.withDeposit d, s.payer, log⟩
      ⟨s'.tx.withDeposit d, s'.payer, log'⟩ := by
  refine ⟨?_, ?_, ?_, h.payer⟩
  · exact { h.left with deposits := h.left.deposits.stage_of_no_index rfl d }
  · exact { h.right with deposits := h.right.deposits.stage_of_no_index rfl d }
  · refine { h.alike with deposits := ?_ }
    have hleft := h.left.deposits.sheet_stage d
    rw [h.alike.deposits, ← h.right.deposits.sheet_stage d] at hleft
    exact hleft

lemma noting (kind : EventKind) :
    Session.Matches b c audited { s with tx := s.tx.noting kind }
      { s' with tx := s'.tx.noting kind } := by
  have hleft := h.left.events.setNext (s.tx.events.nextSeq + 1)
  have hright := h.right.events.setNext (s'.tx.events.nextSeq + 1)
  have ha := h.left.audited
  have ha' := h.right.audited
  cases audited with
  | false =>
    have hs : s.tx.noting kind = s.tx := by simp [Transaction.noting, ha]
    have hs' : s'.tx.noting kind = s'.tx := by simp [Transaction.noting, ha']
    rw [hs, hs']
    exact h
  | true =>
    simp only [Transaction.noting, ha, ha', if_true]
    refine ⟨?_, ?_, ?_, h.payer⟩
    · exact { h.left with events := hleft.stage_of_no_index rfl _, audited := rfl }
    · exact { h.right with events := hright.stage_of_no_index rfl _, audited := rfl }
    · refine { h.alike with events := ?_, nextEvent := congrArg (· + 1) h.alike.nextEvent }
      dsimp only
      rw [hleft.ordered.rows_stage, hright.ordered.rows_stage]
      refine Event.map_contents_put h.alike.events ?_
      rw [h.digestBefore_eq, h.alike.nextEvent]
      rfl

end Session.Matches

namespace Staging

variable {γ α β : Type} {b c : Books} {audited : Bool}

def Agrees (b c : Books) (audited : Bool) (m : Staging γ α) : Prop :=
  ∀ s s' : Session γ, Session.Matches b c audited s s' →
    (m.runIn s).1 = (m.runIn s').1 ∧ Session.Matches b c audited (m.runIn s).2 (m.runIn s').2

lemma Agrees.bind {m : Staging γ α} {f : α → Staging γ β} (hm : Agrees b c audited m)
    (hf : ∀ a, Agrees b c audited (f a)) : Agrees b c audited (m >>= f) := by
  intro s s' h
  obtain ⟨hanswer, hafter⟩ := hm s s' h
  rw [runIn_bind, runIn_bind]
  rcases hs : m.runIn s with ⟨e | a, s₁⟩
  · rcases hs' : m.runIn s' with ⟨e' | a', s₁'⟩
    · rw [hs, hs'] at hanswer hafter
      obtain rfl := Except.error.inj hanswer
      exact ⟨rfl, hafter⟩
    · rw [hs, hs'] at hanswer
      cases hanswer
  · rcases hs' : m.runIn s' with ⟨e' | a', s₁'⟩
    · rw [hs, hs'] at hanswer
      cases hanswer
    · rw [hs, hs'] at hanswer hafter
      obtain rfl := Except.ok.inj hanswer
      exact hf a s₁ s₁' hafter

lemma agrees_credit (account : Account) (amount : UInt64) :
    Agrees b c audited (credit account amount : Staging γ UInt64) := by
  intro s s' h
  have hdeposit : s.tx.depositOf account = s'.tx.depositOf account := by
    rw [Transaction.depositOf, Transaction.depositOf, h.deposit_eq]
  rw [runIn_credit, runIn_credit, hdeposit]
  cases (s'.tx.depositOf account).credited amount with
  | ok d => exact ⟨rfl, h.withDeposit d _ _⟩
  | error f => exact ⟨rfl, h⟩

lemma agrees_debit (account : Account) (amount : UInt64) :
    Agrees b c audited (debit account amount : Staging γ UInt64) := by
  intro s s' h
  have hdeposit := h.deposit_eq account
  cases hd : s'.tx.deposits.get? account with
  | none =>
    rw [runIn_debit_unknown s (hdeposit.trans hd), runIn_debit_unknown s' hd]
    cases (Deposit.empty account).debited amount with
    | ok d => exact ⟨rfl, h⟩
    | error f => exact ⟨rfl, h⟩
  | some d =>
    rw [runIn_debit_known s (hdeposit.trans hd), runIn_debit_known s' hd]
    cases d.debited amount with
    | ok d => exact ⟨rfl, h.withDeposit d _ _⟩
    | error f => exact ⟨rfl, h⟩

lemma agrees_allocateOrderId : Agrees b c audited (allocateOrderId : Staging γ OrderId) := by
  intro s s' h
  have hnext : s.tx.orders.nextSeq = s'.tx.orders.nextSeq := congrArg Sheet.nextSeq h.alike.orders
  have hrows : s.tx.orders.rows = s'.tx.orders.rows := congrArg Sheet.rows h.alike.orders
  rw [runIn_allocateOrderId, runIn_allocateOrderId, hnext]
  split
  · refine ⟨rfl, ?_, ?_, ?_, h.payer⟩
    · exact { h.left with orders := h.left.orders.setNext _ }
    · exact { h.right with orders := h.right.orders.setNext _ }
    · exact { h.alike with orders := congrArg (Sheet.mk · _) hrows }
  · exact ⟨rfl, h⟩

lemma agrees_allocateCheckpointId :
    Agrees b c audited (allocateCheckpointId : Staging γ CheckpointId) := by
  intro s s' h
  have hnext : s.tx.checkpoints.nextSeq = s'.tx.checkpoints.nextSeq :=
    congrArg Sheet.nextSeq h.alike.checkpoints
  have hrows : s.tx.checkpoints.rows = s'.tx.checkpoints.rows :=
    congrArg Sheet.rows h.alike.checkpoints
  rw [runIn_allocateCheckpointId, runIn_allocateCheckpointId, hnext]
  split
  · refine ⟨rfl, ?_, ?_, ?_, h.payer⟩
    · exact { h.left with checkpoints := h.left.checkpoints.setNext _ }
    · exact { h.right with checkpoints := h.right.checkpoints.setNext _ }
    · exact { h.alike with checkpoints := congrArg (Sheet.mk · _) hrows }
  · exact ⟨rfl, h⟩

lemma agrees_insertOrder (o : Order) : Agrees b c audited (insertOrder o : Staging γ Unit) := by
  intro s s' h
  rw [runIn_insertOrder_eq, runIn_insertOrder_eq]
  rcases h.left.orders.insert_alike o h.right.orders h.alike.orders with
    ⟨f, hs, hs'⟩ | ⟨hs, hs', hover, hover', hsheet⟩
  · rw [hs, hs']
    exact ⟨rfl, h⟩
  · rw [hs, hs']
    exact ⟨rfl, { h.left with orders := hover }, { h.right with orders := hover' },
      { h.alike with orders := hsheet }, h.payer⟩

lemma agrees_insertCheckpoint (x : Checkpoint) :
    Agrees b c audited (insertCheckpoint x : Staging γ Unit) := by
  intro s s' h
  rw [runIn_insertCheckpoint_eq, runIn_insertCheckpoint_eq]
  rcases h.left.checkpoints.insert_alike x h.right.checkpoints h.alike.checkpoints with
    ⟨f, hs, hs'⟩ | ⟨hs, hs', hover, hover', hsheet⟩
  · rw [hs, hs']
    exact ⟨rfl, h⟩
  · rw [hs, hs']
    exact ⟨rfl, { h.left with checkpoints := hover }, { h.right with checkpoints := hover' },
      { h.alike with checkpoints := hsheet }, h.payer⟩

lemma runIn_emit_taken {s : Session γ} {e : Event}
    (h : s.tx.events.get? s.tx.events.nextSeq = some e) (ha : s.tx.audited = true)
    (hn : HasNext s.tx.events.nextSeq) (kind : EventKind) :
    (emit kind).runIn s =
      (.error (.failed (.duplicateKey "event" (toString s.tx.events.nextSeq))), { s with
        tx := { s.tx with
          events := { s.tx.events with nextSeq := s.tx.events.nextSeq + 1 } } }) := by
  have hall : s.tx.events.allocate = .ok (s.tx.events.nextSeq,
      { s.tx.events with nextSeq := s.tx.events.nextSeq + 1 }) := if_pos hn
  have hins : ∀ x : Event, x.seq = s.tx.events.nextSeq →
      { s.tx.events with nextSeq := s.tx.events.nextSeq + 1 }.insert x =
        .error (.duplicateKey "event" (toString s.tx.events.nextSeq)) := by
    intro x hx
    have hget : { s.tx.events with nextSeq := s.tx.events.nextSeq + 1 }.get?
        (eventSchema.key x) = some e := hx ▸ h
    rw [Overlay.insert, hget]
    exact congrArg (fun n : UInt64 => Except.error (Failure.duplicateKey "event" (toString n))) hx
  simp [emit, ha, hall, hins, Event.chained]

lemma agrees_emit (kind : EventKind) : Agrees b c audited (emit kind : Staging γ Unit) := by
  intro s s' h
  have hevent := h.event_eq s.tx.events.nextSeq
  have hnext := h.alike.nextEvent
  have ha := h.left.audited
  have ha' := h.right.audited
  cases hs : s.tx.events.get? s.tx.events.nextSeq with
  | none =>
    have hs' : s'.tx.events.get? s'.tx.events.nextSeq = none := by
      rw [hs, hnext] at hevent
      exact Option.map_eq_none_iff.mp hevent.symm
    rw [runIn_emit s hs, runIn_emit s' hs', ha, ha', hnext]
    split
    · exact ⟨rfl, h⟩
    · exact ⟨rfl, h.noting kind⟩
  | some e =>
    -- A trail without gaps has no event here, but even then both sessions fail alike.
    obtain ⟨e', hs'⟩ : ∃ e', s'.tx.events.get? s'.tx.events.nextSeq = some e' := by
      rw [hs, hnext] at hevent
      obtain ⟨e', he', -⟩ := Option.map_eq_some_iff.mp hevent.symm
      exact ⟨e', he'⟩
    cases audited with
    | false => simpa [emit, ha, ha'] using h
    | true =>
      by_cases hn : HasNext s'.tx.events.nextSeq
      · rw [runIn_emit_taken hs ha (hnext ▸ hn), runIn_emit_taken hs' ha' hn, hnext]
        refine ⟨rfl, ?_, ?_, ?_, h.payer⟩
        · exact { h.left with events := h.left.events.setNext _ }
        · exact { h.right with events := h.right.events.setNext _ }
        · exact { h.alike with nextEvent := rfl }
      · have hall : s.tx.events.allocate = .error (.idSpaceExhausted "event") :=
          if_neg (hnext ▸ hn)
        have hall' : s'.tx.events.allocate = .error (.idSpaceExhausted "event") := if_neg hn
        simpa [emit, ha, ha', hall, hall'] using h

lemma agrees_setOwner (o : Account) : Agrees b c audited (setOwner o : Staging γ Unit) := by
  intro s s' h
  exact ⟨rfl, { h.left with }, { h.right with }, { h.alike with owner := rfl }, h.payer⟩

lemma agrees_stable [Payer γ] : Stable (Agrees (γ := γ) b c audited) where
  pure _ _ _ h := ⟨rfl, h⟩
  throw _ _ _ h := ⟨rfl, h⟩
  bind := Agrees.bind
  log _ _ _ _ h := ⟨rfl, ⟨h.left, h.right, h.alike, h.payer⟩⟩
  owner s s' h := ⟨congrArg Except.ok h.alike.owner, h⟩
  findRoot root s s' h := ⟨congrArg Except.ok (h.root_eq root), h⟩
  credit := agrees_credit
  debit := agrees_debit
  allocateOrderId := agrees_allocateOrderId
  insertOrder := agrees_insertOrder
  allocateCheckpointId := agrees_allocateCheckpointId
  insertCheckpoint := agrees_insertCheckpoint
  emit := agrees_emit
  pay i s s' h := by
    rw [runIn_pay, runIn_pay, h.payer]
    exact ⟨rfl, h.left, h.right, h.alike, rfl⟩

end Staging

end Depository
