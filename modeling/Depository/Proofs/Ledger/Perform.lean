import Depository.Proofs.Ledger.Conclude

namespace Depository

open Store

namespace Ledger

variable {γ : Type} {l : Ledger γ} {stamp : Stamp}

section Requests

variable [Payer γ] (h : l.books.Sound) (maxRootBytes : UInt64)

include h

lemma conclude_deposit (account : Account) (amount : UInt64) :
    l.conclude (((Request.deposit account amount).stage maxRootBytes ⟨.deposit, account⟩).runIn
      (l.session stamp)) =
    l.follow stamp (l.books.withRoom l.settings.eventLog
      (l.books.judge maxRootBytes (.deposit account amount))) := by
  by_cases h0 : amount = 0
  · simp [Request.stage, Staging.depositFunds, Capability.ensure, h0, Books.judge, follow,
      Books.withRoom, conclude, session]
  · have hprog : (Request.deposit account amount).stage (γ := γ) maxRootBytes ⟨.deposit, account⟩ =
        Staging.credit account amount >>= fun balance =>
          Staging.emit (.deposited account amount balance) >>= fun _ =>
            pure (.balance balance) := by
      simp [Request.stage, Staging.depositFunds, Capability.ensure, h0]
    rw [hprog, Staging.runIn_bind]
    by_cases ho : UInt64.size ≤ (l.books.balanceOf account).toNat + amount.toNat
    · have hj : l.books.judge maxRootBytes (.deposit account amount) =
          .error (.balanceOverflow account (l.books.balanceOf account) amount) := by
        simp [Books.judge, h0, ho]
      rw [credit_over stamp h ho, hj]
      exact conclude_error rfl
    · have hj : l.books.judge maxRootBytes (.deposit account amount) =
          .ok (.deposited account amount (l.books.balanceOf account + amount)) := by
        simp [Books.judge, h0, ho]
      obtain ⟨t, log, hrun, ht, -, hc⟩ := credit_fits stamp h ho
      rw [hrun, hj]
      exact Unnoted.conclude_emit h ht rfl rfl ht hc ⟨_, rfl⟩

lemma conclude_debit (account : Account) (amount : UInt64) :
    l.conclude (((Request.debit account amount).stage maxRootBytes ⟨.debit, l.books.owner⟩).runIn
      (l.session stamp)) =
    l.follow stamp (l.books.withRoom l.settings.eventLog
      (l.books.judge maxRootBytes (.debit account amount))) := by
  have hprog : ((Request.debit account amount).stage (γ := γ) maxRootBytes
      ⟨.debit, l.books.owner⟩).runIn (l.session stamp) =
        (Staging.debit account amount >>= fun balance =>
          Staging.emit (.debited account amount balance) >>= fun _ =>
            pure (.balance balance)).runIn (l.session stamp) := by
    have howner : (l.session stamp).tx.owner = l.books.owner := rfl
    simp [Request.stage, Staging.debitFunds, Capability.ensure, howner]
  rw [hprog, Staging.runIn_bind]
  by_cases hlt : l.books.balanceOf account < amount
  · have hj : l.books.judge maxRootBytes (.debit account amount) =
        .error (.insufficientFunds account amount (l.books.balanceOf account)) := if_pos hlt
    rw [debit_short stamp h hlt, hj]
    exact conclude_error rfl
  · have hj : l.books.judge maxRootBytes (.debit account amount) =
        .ok (.debited account amount (l.books.balanceOf account - amount)) := if_neg hlt
    obtain ⟨t, log, hrun, ht, hc⟩ := debit_covered stamp h hlt
    rw [hrun, hj]
    exact Unnoted.conclude_emit h ht rfl rfl ht hc ⟨_, rfl⟩

lemma conclude_credited (o : OrderRequest) {balance : UInt64} {t : Transaction}
    {log : List LogRecord} (ht : l.Unnoted stamp t) (hto : t.orders = .begin l.books.orders)
    (hc : l.books.apply t.changes = l.books.setBalance o.owner balance) :
    l.conclude ((Staging.allocateOrderId >>= fun id =>
      Staging.emit (.orderPlaced id o.owner o.price o.amount o.value balance) >>= fun _ =>
        (Staging.log fun tx => .orderStaged tx (o.toOrder id)) >>= fun _ =>
          Staging.insertOrder (o.toOrder id) >>= fun _ => pure (Reply.order id)).runIn
      ⟨t, l.payer, log⟩) =
    l.follow stamp (l.books.withRoom l.settings.eventLog
      (if ¬ HasNext l.books.orders.nextSeq then .error (.idSpaceExhausted "order")
      else .ok (.orderPlaced ⟨l.books.orders.nextSeq⟩ o.owner o.price o.amount o.value
        balance))) := by
  have hnext : t.orders.nextSeq = l.books.orders.nextSeq := by rw [hto]; rfl
  rw [Staging.runIn_bind, Staging.runIn_allocateOrderId]
  simp only [hnext]
  by_cases hn : HasNext l.books.orders.nextSeq
  · have hfree : t.orders.get? ⟨l.books.orders.nextSeq⟩ = none := by
      rw [hto]
      exact (Overlay.get?_begin _ _).trans h.orders.find?_next
    have hbooks := Books.apply_withOrder hto (o.toOrder ⟨l.books.orders.nextSeq⟩)
      (l.books.orders.nextSeq + 1)
    rw [hc] at hbooks
    rw [if_pos hn, if_neg (not_not_intro hn)]
    refine Unnoted.conclude_emit h ⟨ht.events, ht.audited, ht.stamp⟩ rfl rfl (t := { t with
      orders := { t.orders with nextSeq := l.books.orders.nextSeq + 1 }.stage
        (o.toOrder ⟨l.books.orders.nextSeq⟩) })
      ⟨ht.events, ht.audited, ht.stamp⟩ hbooks
      ⟨log ++ [.orderStaged t.stamp.tx (o.toOrder ⟨l.books.orders.nextSeq⟩)], ?_⟩
    rw [Staging.runIn_bind, Staging.runIn_log]
    dsimp only
    rw [Staging.runIn_bind,
      Staging.runIn_insertOrder _ ((Transaction.noting_orders _ _).symm ▸ hfree),
      Transaction.noting_orders, Transaction.noting_setOrders, Transaction.noting_stamp]
    rfl
  · rw [if_neg hn, if_pos hn]
    exact conclude_error rfl

lemma conclude_placeOrder (o : OrderRequest) :
    l.conclude (((Request.placeOrder o).stage maxRootBytes ⟨.placeOrder, o.owner⟩).runIn
      (l.session stamp)) =
    l.follow stamp (l.books.withRoom l.settings.eventLog
      (l.books.judge maxRootBytes (.placeOrder o))) := by
  have hprog : (Request.placeOrder o).stage (γ := γ) maxRootBytes ⟨.placeOrder, o.owner⟩ =
      Staging.credit o.owner o.value >>= fun balance =>
        Staging.allocateOrderId >>= fun id =>
          Staging.emit (.orderPlaced id o.owner o.price o.amount o.value balance) >>= fun _ =>
            (Staging.log fun tx => .orderStaged tx (o.toOrder id)) >>= fun _ =>
              Staging.insertOrder (o.toOrder id) >>= fun _ => pure (.order id) := by
    simp [Request.stage, Staging.placeOrder, Capability.ensure, OrderRequest.toOrder]
  rw [hprog, Staging.runIn_bind]
  by_cases ho : UInt64.size ≤ (l.books.balanceOf o.owner).toNat + o.value.toNat
  · have hj : l.books.judge maxRootBytes (.placeOrder o) =
        .error (.balanceOverflow o.owner (l.books.balanceOf o.owner) o.value) := if_pos ho
    rw [credit_over stamp h ho, hj]
    exact conclude_error rfl
  · have hj : l.books.judge maxRootBytes (.placeOrder o) =
        if ¬ HasNext l.books.orders.nextSeq then .error (.idSpaceExhausted "order")
        else .ok (.orderPlaced ⟨l.books.orders.nextSeq⟩ o.owner o.price o.amount o.value
          (l.books.balanceOf o.owner + o.value)) := if_neg ho
    obtain ⟨t, log, hrun, ht, hto, hc⟩ := credit_fits stamp h ho
    rw [hrun, hj]
    exact conclude_credited h o ht hto hc

lemma conclude_recordFresh {root : Root} (hfresh : l.books.findCheckpoint root = none) :
    l.conclude ((Staging.allocateCheckpointId >>= fun id =>
      Staging.emit (.checkpointRecorded id root) >>= fun _ =>
        Staging.insertCheckpoint ⟨id, root⟩ >>= fun _ => pure (Reply.checkpoint id)).runIn
      (l.session stamp)) =
    l.follow stamp (l.books.withRoom l.settings.eventLog
      (if ¬ HasNext l.books.checkpoints.nextSeq then .error (.idSpaceExhausted "checkpoint")
      else .ok (.checkpointRecorded ⟨l.books.checkpoints.nextSeq⟩ root))) := by
  have hbase : (l.session stamp).tx.checkpoints = .begin l.books.checkpoints := rfl
  have hnext : (l.session stamp).tx.checkpoints.nextSeq = l.books.checkpoints.nextSeq := rfl
  rw [Staging.runIn_bind, Staging.runIn_allocateCheckpointId]
  simp only [hnext]
  by_cases hn : HasNext l.books.checkpoints.nextSeq
  · have hfree : (l.session stamp).tx.checkpoints.get? ⟨l.books.checkpoints.nextSeq⟩ = none := by
      rw [hbase]
      exact (Overlay.get?_begin _ _).trans h.checkpoints.find?_next
    have hunique : (l.session stamp).tx.checkpoints.findUnique? root.bytes = none :=
      (findUnique?_session h stamp root).trans hfresh
    have hbooks := Books.apply_withCheckpoint hbase ⟨⟨l.books.checkpoints.nextSeq⟩, root⟩
      (l.books.checkpoints.nextSeq + 1)
    have hnone : l.books.apply (l.session stamp).tx.changes = l.books := Books.apply_begin
    rw [hnone] at hbooks
    rw [if_pos hn, if_neg (not_not_intro hn)]
    refine Unnoted.conclude_emit h ⟨rfl, rfl, rfl⟩ rfl rfl (t := { (l.session stamp).tx with
      checkpoints := { (l.session stamp).tx.checkpoints with
        nextSeq := l.books.checkpoints.nextSeq + 1 }.stage
          ⟨⟨l.books.checkpoints.nextSeq⟩, root⟩ })
      ⟨rfl, rfl, rfl⟩ hbooks ⟨[], ?_⟩
    rw [Staging.runIn_bind, Staging.runIn_insertCheckpoint _
      ((Transaction.noting_checkpoints _ _).symm ▸ hfree)
      ((Transaction.noting_checkpoints _ _).symm ▸ hunique),
      Transaction.noting_checkpoints, Transaction.noting_setCheckpoints]
    rfl
  · rw [if_neg hn, if_pos hn]
    exact conclude_error rfl

omit [Payer γ] in
lemma runIn_recordTaken {root : Root} (hv : Staging.validateRoot root maxRootBytes = .ok ())
    {existing : Checkpoint} (hf : l.books.findCheckpoint root = some existing) :
    (Staging.recordCheckpoint ⟨.recordCheckpoint, l.books.owner⟩ root maxRootBytes >>=
      fun id => pure (Reply.checkpoint id)).runIn (l.session stamp) =
    (.error (.failed (.duplicateEntry "checkpoint.root" root.toHex)),
      { l.session stamp with
        log := (l.session stamp).log ++ [.duplicateRoot stamp.tx root existing.id] }) := by
  have howner : (l.session stamp).tx.owner = l.books.owner := rfl
  have hstamp : (l.session stamp).tx.stamp = stamp := rfl
  simp [Staging.recordCheckpoint, Capability.ensure, howner, hstamp, hv, findUnique?_session h, hf]

lemma conclude_record (root : Root) :
    l.conclude ((Staging.recordCheckpoint ⟨.recordCheckpoint, l.books.owner⟩ root maxRootBytes >>=
      fun id => pure (Reply.checkpoint id)).runIn (l.session stamp)) =
    l.follow stamp (l.books.withRoom l.settings.eventLog (l.books.judgeRoot maxRootBytes root)) := by
  have howner : (l.session stamp).tx.owner = l.books.owner := rfl
  cases hv : Staging.validateRoot root maxRootBytes with
  | error f =>
    have hj : l.books.judgeRoot maxRootBytes root = .error f := by
      simp only [Staging.validateRoot] at hv
      simp only [Books.judgeRoot]
      split_ifs at hv ⊢ <;> simpa using hv
    have hprog : (Staging.recordCheckpoint ⟨.recordCheckpoint, l.books.owner⟩ root maxRootBytes >>=
        fun id => pure (Reply.checkpoint id)).runIn (l.session stamp) =
          (.error (.failed f), l.session stamp) := by
      simp [Staging.recordCheckpoint, Capability.ensure, howner, hv]
    rw [hprog, hj]
    exact conclude_error rfl
  | ok =>
    have hsize := Staging.validateRoot_eq_ok_iff.mp hv
    cases hf : l.books.findCheckpoint root with
    | some existing =>
      have hj : l.books.judgeRoot maxRootBytes root =
          .error (.duplicateEntry "checkpoint.root" root.toHex) := by
        simp [Books.judgeRoot, hsize, hf]
      rw [runIn_recordTaken h maxRootBytes hv hf, hj]
      exact conclude_error rfl
    | none =>
      have hj : l.books.judgeRoot maxRootBytes root =
          if ¬ HasNext l.books.checkpoints.nextSeq then .error (.idSpaceExhausted "checkpoint")
          else .ok (.checkpointRecorded ⟨l.books.checkpoints.nextSeq⟩ root) := by
        simp [Books.judgeRoot, hsize, hf]
      have hprog : (Staging.recordCheckpoint ⟨.recordCheckpoint, l.books.owner⟩ root
          maxRootBytes >>= fun id => pure (Reply.checkpoint id)).runIn (l.session stamp) =
            (Staging.allocateCheckpointId >>= fun id =>
              Staging.emit (.checkpointRecorded id root) >>= fun _ =>
                Staging.insertCheckpoint ⟨id, root⟩ >>= fun _ =>
                  pure (Reply.checkpoint id)).runIn (l.session stamp) := by
        simp [Staging.recordCheckpoint, Capability.ensure, howner, hv, findUnique?_session h, hf]
      rw [hprog, hj]
      exact conclude_recordFresh h hf

lemma conclude_withdraw (receiver : Account) (amount : UInt64) :
    l.conclude (((Request.withdraw receiver amount).stage maxRootBytes
      ⟨.withdraw, l.books.owner⟩).runIn (l.session stamp)) =
    l.follow stamp (l.books.withRoom l.settings.eventLog
      (l.books.judge maxRootBytes (.withdraw receiver amount))) := by
  have howner : (l.session stamp).tx.owner = l.books.owner := rfl
  have hprog : ((Request.withdraw receiver amount).stage (γ := γ) maxRootBytes
      ⟨.withdraw, l.books.owner⟩).runIn (l.session stamp) =
        (Staging.debit l.books.owner amount >>= fun balance =>
          Staging.emit (.withdrawn receiver amount) >>= fun _ =>
            Staging.pay ⟨receiver, amount⟩ >>= fun verdict =>
              Staging.heed receiver amount balance verdict >>= fun _ =>
                pure Reply.done).runIn (l.session stamp) := by
    simp [Request.stage, Staging.withdraw_eq, Capability.ensure, howner]
  rw [hprog, Staging.runIn_bind]
  by_cases hlt : l.books.balanceOf l.books.owner < amount
  · have hj : l.books.judge maxRootBytes (.withdraw receiver amount) =
        .error (.insufficientFunds l.books.owner amount (l.books.balanceOf l.books.owner)) :=
      if_pos hlt
    rw [debit_short stamp h hlt, hj]
    exact conclude_error rfl
  · have hj : l.books.judge maxRootBytes (.withdraw receiver amount) =
        .ok (.withdrawn receiver amount) := if_neg hlt
    obtain ⟨t, log, hrun, ht, hc⟩ := debit_covered stamp h hlt
    rw [hrun, hj]
    dsimp only
    rw [Staging.runIn_bind, Unnoted.runIn_emit h ht]
    by_cases hn : l.settings.eventLog = true ∧ ¬ HasNext l.books.events.nextSeq
    · rw [if_pos hn, Books.withRoom, if_pos hn]
      exact conclude_error rfl
    · have hbooks := Books.apply_noting h ht.events
        (show l.books.apply t.changes = l.books.carryOut (.withdrawn receiver amount) from hc)
      rw [ht.audited, ht.stamp] at hbooks
      rw [if_neg hn, Books.withRoom, if_neg hn]
      dsimp only
      rw [Staging.runIn_bind, Staging.runIn_pay]
      simp only [follow, settle, EventKind.payout?]
      rcases Payer.pay l.payer ⟨receiver, amount⟩ with ⟨_ | reason | _, payer⟩
      · simp [Staging.heed, conclude, hbooks, EventKind.reply, Except.map]
      · simp [Staging.heed, conclude, Except.map]
      · simp [Staging.heed, conclude]

lemma conclude_transferOwnership (new : Account) :
    l.conclude (((Request.transferOwnership new).stage maxRootBytes
      ⟨.transferOwnership, l.books.owner⟩).runIn (l.session stamp)) =
    l.follow stamp (l.books.withRoom l.settings.eventLog
      (l.books.judge maxRootBytes (.transferOwnership new))) := by
  have hprog : ((Request.transferOwnership new).stage (γ := γ) maxRootBytes
      ⟨.transferOwnership, l.books.owner⟩).runIn (l.session stamp) =
        (if new.isEmpty then Staging.fail (.malformed "new owner must not be empty")
        else Staging.emit (.ownershipTransferred l.books.owner new) >>= fun _ =>
          Staging.setOwner new >>= fun _ => pure .done).runIn (l.session stamp) := by
    have howner : (l.session stamp).tx.owner = l.books.owner := rfl
    cases hn : new.isEmpty <;>
      simp [Request.stage, Staging.transferOwnership, Capability.ensure, howner, hn]
  rw [hprog]
  cases hn : new.isEmpty with
  | true =>
    have hj : l.books.judge maxRootBytes (.transferOwnership new) =
        .error (.malformed "new owner must not be empty") := if_pos hn
    rw [hj]
    exact conclude_error rfl
  | false =>
    have hj : l.books.judge maxRootBytes (.transferOwnership new) =
        .ok (.ownershipTransferred l.books.owner new) := by
      simp [Books.judge, hn]
    rw [hj]
    refine Unnoted.conclude_emit h ⟨rfl, rfl, rfl⟩ rfl rfl
      (t := { (l.session stamp).tx with stagedOwner := some new }) ⟨rfl, rfl, rfl⟩ ?_ ?_
    · simp [Books.apply, Transaction.changes, Books.carryOut, session, Transaction.begin]
    · refine ⟨[], ?_⟩
      rw [← Transaction.noting_setOwner]
      rfl

lemma conclude_stage (r : Request) :
    l.conclude ((r.stage maxRootBytes ⟨r.operation, r.principal l.books.owner⟩).runIn
      (l.session stamp)) =
    l.follow stamp (l.books.withRoom l.settings.eventLog (l.books.judge maxRootBytes r)) := by
  cases r with
  | deposit account amount => exact conclude_deposit h maxRootBytes account amount
  | debit account amount => exact conclude_debit h maxRootBytes account amount
  | placeOrder o => exact conclude_placeOrder h maxRootBytes o
  | recordRoot root => exact conclude_record h maxRootBytes root
  | recordHex text =>
    cases hx : Root.ofHex text with
    | ok root =>
      have hj : l.books.judge maxRootBytes (.recordHex text) =
          l.books.judgeRoot maxRootBytes root := by
        simp [Books.judge, hx]
      have hprog : (Request.recordHex text).stage (γ := γ) maxRootBytes
          ⟨.recordCheckpoint, l.books.owner⟩ =
            Staging.recordCheckpoint ⟨.recordCheckpoint, l.books.owner⟩ root maxRootBytes >>=
              fun id => pure (Reply.checkpoint id) := by
        simp [Request.stage, hx]
      rw [hj, ← conclude_record h, ← hprog]
      rfl
    | error f =>
      have hj : l.books.judge maxRootBytes (.recordHex text) = .error f := by
        simp [Books.judge, hx]
      have hprog : ((Request.recordHex text).stage (γ := γ) maxRootBytes
          ⟨.recordCheckpoint, l.books.owner⟩).runIn (l.session stamp) =
            (.error (.failed f), l.session stamp) := by
        simp [Request.stage, hx]
      rw [hj]
      exact (congrArg l.conclude hprog).trans (conclude_error rfl)
  | withdraw receiver amount => exact conclude_withdraw h maxRootBytes receiver amount
  | transferOwnership new => exact conclude_transferOwnership h maxRootBytes new

end Requests

lemma grant_eq (r : Request) (caller owner : Account) :
    Capability.grant r.operation caller owner r.subject =
      if caller = r.principal owner then .ok ⟨r.operation, r.principal owner⟩
      else .error (.unauthorized r.operation caller (r.principal owner)) := by
  have hauth : Capability.grant r.operation caller owner r.subject =
      Capability.authorize r.operation caller (r.principal owner) := by
    cases r <;> rfl
  rw [hauth, Capability.authorize]
  split
  case isTrue hc => rw [hc]
  case isFalse => rfl

lemma runIn_attempt [Payer γ] (stamp : Stamp) (caller : Account) (r : Request) :
    (r.attempt l.settings.maxRootBytes caller).runIn (l.session stamp) =
      (Staging.granted (Capability.grant r.operation caller l.books.owner r.subject) >>=
        fun c => r.stage l.settings.maxRootBytes c).runIn (l.session stamp) := by
  have howner : (l.session stamp).tx.owner = l.books.owner := rfl
  simp only [Request.attempt, Staging.runIn_bind, Staging.runIn_tx, howner]

lemma runIn_attempt_consented [Payer γ] (stamp : Stamp) {caller : Account} {r : Request}
    (hc : caller = r.principal l.books.owner) :
    (r.attempt l.settings.maxRootBytes caller).runIn (l.session stamp) =
      (r.stage l.settings.maxRootBytes ⟨r.operation, r.principal l.books.owner⟩).runIn
        (l.session stamp) := by
  rw [runIn_attempt, grant_eq, if_pos hc, Staging.runIn_bind, Staging.runIn_granted_ok]

lemma runIn_attempt_denied [Payer γ] (stamp : Stamp) {caller : Account} {r : Request}
    (hc : caller ≠ r.principal l.books.owner) :
    (r.attempt l.settings.maxRootBytes caller).runIn (l.session stamp) =
      (.error (.failed (.unauthorized r.operation caller (r.principal l.books.owner))),
        { l.session stamp with
          log := [.denied r.operation caller (r.principal l.books.owner)] }) := by
  rw [runIn_attempt, grant_eq, if_neg hc, Staging.runIn_bind, Staging.runIn_granted_error]
  rfl

lemma perform_eq_conclude [Payer γ] (stamp : Stamp) (caller : Account) (r : Request) :
    ((l.perform stamp caller r).outcome, (l.perform stamp caller r).ledger) =
      l.conclude ((r.attempt l.settings.maxRootBytes caller).runIn (l.session stamp)) := by
  have hrun : (r.attempt l.settings.maxRootBytes caller).run (l.session stamp) =
      (r.attempt l.settings.maxRootBytes caller).runIn (l.session stamp) := rfl
  rw [perform, hrun]
  rcases (r.attempt l.settings.maxRootBytes caller).runIn (l.session stamp) with
    ⟨(f | _) | reply, s⟩ <;> rfl

theorem perform_eq [Payer γ] (h : l.books.Sound) (stamp : Stamp) (caller : Account) (r : Request) :
    ((l.perform stamp caller r).outcome, (l.perform stamp caller r).ledger) =
      l.follow stamp (l.books.ruling l.settings caller r) := by
  rw [perform_eq_conclude, Books.ruling]
  by_cases hc : caller = r.principal l.books.owner
  · rw [runIn_attempt_consented stamp hc, if_neg (not_not_intro hc)]
    exact conclude_stage h _ r
  · rw [runIn_attempt_denied stamp hc, if_pos hc]
    exact conclude_error rfl

lemma perform_refused [Payer γ] (h : l.books.Sound) (stamp : Stamp) {caller : Account} {r : Request}
    {f : Failure} (hr : l.books.ruling l.settings caller r = .error f) :
    (l.perform stamp caller r).outcome = .error (.failed f) ∧
      (l.perform stamp caller r).ledger = l := by
  have hperform := perform_eq h stamp caller r
  rw [hr] at hperform
  exact Prod.mk.inj hperform

lemma perform_unpaid [Payer γ] (h : l.books.Sound) (stamp : Stamp) {caller : Account} {r : Request}
    {kind : EventKind} (hr : l.books.ruling l.settings caller r = .ok kind)
    (hk : kind.payout? = none) :
    (l.perform stamp caller r).outcome = .ok kind.reply ∧
      (l.perform stamp caller r).ledger =
        { l with books := l.books.enact l.settings.eventLog stamp kind } := by
  have hperform := perform_eq h stamp caller r
  simp only [hr, follow, settle, hk] at hperform
  exact Prod.mk.inj hperform

lemma failed_cases [Payer γ] (h : l.books.Sound) {stamp : Stamp} {caller : Account} {r : Request}
    {f : Failure} (ho : (l.perform stamp caller r).outcome = .error (.failed f)) :
    l.books.ruling l.settings caller r = .error f ∨ f.category = .externalCollaborator := by
  have hperform := congrArg Prod.fst (perform_eq h stamp caller r)
  rw [ho] at hperform
  cases hr : l.books.ruling l.settings caller r with
  | error f' =>
    rw [hr] at hperform
    obtain rfl : f = f' := Abort.failed.inj (Except.error.inj hperform)
    exact .inl rfl
  | ok kind =>
    rw [hr] at hperform
    simp only [follow, settle] at hperform
    cases hk : kind.payout? with
    | none => simp [hk] at hperform
    | some i =>
      simp only [hk] at hperform
      rcases hp : Payer.pay l.payer i with ⟨_ | reason | _, p⟩
      · simp [hp] at hperform
      · simp only [hp, Except.error.injEq, Abort.failed.injEq] at hperform
        exact .inr (hperform ▸ rfl)
      · simp [hp] at hperform

end Ledger

end Depository
