import Depository.Proofs.Capabilities
import Depository.Proofs.Numbered

namespace Depository

open Store

namespace Transaction

structure Roomy (t : Transaction) : Prop where
  orders : HasNext t.orders.nextSeq
  checkpoints : HasNext t.checkpoints.nextSeq
  events : HasNext t.events.nextSeq

structure Debited (t t' : Transaction) (account : Account) (amount : UInt64) : Prop where
  covered : amount ≤ (t.depositOf account).amount
  base : t'.deposits.base = t.deposits.base
  rows : t'.deposits.rows =
    t.deposits.rows.map fun d => if d.account = account then ⟨account, d.amount - amount⟩ else d
  next : t'.deposits.nextSeq = t.deposits.nextSeq
  rest : { t' with deposits := t.deposits } = t

/-- A payout has been staged for the owner, with its event if the transaction is audited, and that
is all that has changed. -/
structure DrawnUpon (t t' : Transaction) (receiver : Account) (amount : UInt64) : Prop where
  debited : t.Debited { t' with events := t.events } t.owner amount
  base : t'.events.base = t.events.base
  rows : t'.events.rows = t.events.rows ++ if t.audited then
    [.chained t.events.nextSeq t.stamp (.withdrawn receiver amount)
      (digestAfter genesis t.events.rows)] else []
  next : t'.events.nextSeq = if t.audited then t.events.nextSeq + 1 else t.events.nextSeq

variable {t t' : Transaction} {b : Books} {audited : Bool}

lemma Debited.of_unknown {account : Account} (h : t.deposits.Over b.deposits)
    (hd : t.deposits.get? account = none) : t.Debited t account 0 where
  covered := UInt64.zero_le
  base := rfl
  rows := by
    have hother : ∀ d ∈ t.deposits.rows,
        (if d.account = account then ⟨account, d.amount - 0⟩ else d) = d := by
      intro d hd'
      refine if_neg fun he => ?_
      have hget := h.get?_eq_some_iff.mpr ⟨hd', he⟩
      cases hd.symm.trans hget
    rw [List.map_congr_left hother, List.map_id']
  next := rfl
  rest := rfl

lemma Debited.of_known {account : Account} {d : Deposit} {amount : UInt64}
    (h : t.deposits.Over b.deposits) (hd : t.deposits.get? account = some d)
    (hle : amount ≤ d.amount) :
    t.Debited (t.withDeposit ⟨d.account, d.amount - amount⟩) account amount where
  covered := by simpa [depositOf, hd] using hle
  base := rfl
  rows := by
    obtain ⟨hmem, rfl⟩ := h.get?_eq_some_iff.mp hd
    have hput : (t.deposits.stage ⟨d.account, d.amount - amount⟩).rows =
        depositSchema.put ⟨d.account, d.amount - amount⟩ t.deposits.rows :=
      h.ordered.rows_stage _
    refine (hput.trans (h.ascending.put_eq_map hmem rfl)).trans (List.map_congr_left ?_)
    intro y hy
    -- No other row is the account's.
    by_cases hk : y.account = d.account
    · obtain rfl : y = d :=
        Option.some.inj ((h.get?_eq_some_iff.mpr ⟨hy, hk⟩).symm.trans hd)
      rfl
    · exact (if_neg hk).trans (if_neg hk).symm
  next := rfl
  rest := rfl

lemma DrawnUpon.of_debited {t₁ : Transaction} {receiver : Account} {amount : UInt64}
    (h : t.Debited t₁ t.owner amount) (h₁ : t₁.InOrder b audited) :
    t.DrawnUpon (t₁.noting (.withdrawn receiver amount)) receiver amount := by
  have hevents : t₁.events = t.events := by rw [← h.rest]
  have hstamp : t₁.stamp = t.stamp := by rw [← h.rest]
  have haudited : t₁.audited = t.audited := by rw [← h.rest]
  have hrows := h₁.noting_rows (.withdrawn receiver amount)
  rw [hevents, hstamp, haudited] at hrows
  have hnoting : { t₁.noting (.withdrawn receiver amount) with events := t.events } = t₁ := by
    rw [← hevents, Transaction.noting]
    split <;> rfl
  refine ⟨hnoting.symm ▸ h, ?_, hrows, ?_⟩
  · rw [← hevents, Transaction.noting]
    split <;> rfl
  · rw [← hevents, ← haudited, Transaction.noting]
    split <;> rfl

end Transaction

def Session.Spared {γ α : Type} (s : Session γ) (x : Except Abort α × Session γ) : Prop :=
  ∀ f, x.1 = .error (.failed f) →
    f.category ≠ .externalCollaborator ∧ x.2.tx = s.tx ∧ x.2.payer = s.payer

lemma Session.Spared.unchanged {γ α : Type} {s s' : Session γ} {x : Except Abort α × Session γ}
    {f : Failure} (h : s.Spared x) (hx : x = (.error (.failed f), s')) :
    f.category ≠ .externalCollaborator ∧ s'.tx = s.tx ∧ s'.payer = s.payer := by
  subst hx
  exact h f rfl

namespace Staging

variable {γ α β : Type} {s s' : Session γ} {b : Books} {audited : Bool}

lemma runIn_of_bind_pure {m : Staging γ α} {g : α → β} {e : Abort}
    (h : (m >>= fun a => pure (g a)).runIn s = (.error e, s')) : m.runIn s = (.error e, s') := by
  rw [runIn_bind] at h
  rcases hm : m.runIn s with ⟨_ | _, _⟩
  · rw [hm] at h
    cases h
    rfl
  · rw [hm] at h
    cases h

lemma spared_of_ok {x : Except Abort α × Session γ} {a : α} (h : x.1 = .ok a) : s.Spared x := by
  intro f hf
  cases h.symm.trans hf

lemma spared_of_error {f : Failure} (hf : f.category ≠ .externalCollaborator) (hs : s'.tx = s.tx)
    (hp : s'.payer = s.payer) : s.Spared ((.error (.failed f), s') : Except Abort α × Session γ) := by
  intro f' hf'
  obtain rfl : f = f' := Abort.failed.inj (Except.error.inj hf')
  exact ⟨hf, hs, hp⟩

lemma spared_bind {m : Staging γ α} {g : α → Staging γ β} (hm : s.Spared (m.runIn s))
    (hg : ∀ a s', m.runIn s = (.ok a, s') → s.Spared ((g a).runIn s')) :
    s.Spared ((m >>= g).runIn s) := by
  refine runIn_bind_elim s (fun e s' hrun f hf => ?_) hg
  obtain rfl : e = .failed f := Except.error.inj hf
  exact hm.unchanged hrun

lemma spared_ensure {c : Capability} {operation : Operation} {required : Account}
    {m : Staging γ α} (hm : s.Spared (m.runIn s)) :
    s.Spared ((check (c.ensure operation required) >>= fun _ => m).runIn s) := by
  cases he : c.ensure operation required with
  | error f => exact spared_of_error (Capability.category_of_ensure he) rfl rfl
  | ok => exact hm

lemma spared_credit (account : Account) (amount : UInt64) :
    s.Spared ((credit account amount).runIn s) := by
  rw [runIn_credit]
  cases hd : (s.tx.depositOf account).credited amount with
  | ok d => exact spared_of_ok rfl
  | error f => exact spared_of_error (by simp [Deposit.category_credited hd]) rfl rfl

lemma spared_debit (account : Account) (amount : UInt64) :
    s.Spared ((debit account amount).runIn s) := by
  cases hget : s.tx.deposits.get? account with
  | none =>
    rw [runIn_debit_unknown s hget]
    cases hd : (Deposit.empty account).debited amount with
    | ok d => exact spared_of_ok rfl
    | error f => exact spared_of_error (by simp [Deposit.category_debited hd]) rfl rfl
  | some d =>
    rw [runIn_debit_known s hget]
    cases hd : d.debited amount with
    | ok d => exact spared_of_ok rfl
    | error f => exact spared_of_error (by simp [Deposit.category_debited hd]) rfl rfl

lemma debited_of_debit (h : s.tx.InOrder b audited) {account : Account} {amount balance : UInt64}
    (hd : (debit account amount).runIn s = (.ok balance, s')) :
    s.tx.Debited s'.tx account amount ∧ s'.payer = s.payer := by
  cases hget : s.tx.deposits.get? account with
  | none =>
    rw [runIn_debit_unknown s hget, Deposit.debited] at hd
    split_ifs at hd with hle
    · obtain rfl : amount = 0 := UInt64.le_zero_iff.mp hle
      cases hd
      exact ⟨.of_unknown h.deposits hget, rfl⟩
    · cases hd
  | some d =>
    rw [runIn_debit_known s hget, Deposit.debited] at hd
    split_ifs at hd with hle
    · cases hd
      exact ⟨.of_known h.deposits hget hle, rfl⟩
    · cases hd

section Calls

variable (h : s.tx.InOrder b audited) (hroom : s.tx.Roomy)

include h hroom

lemma roomy_of_credit {account : Account} {amount balance : UInt64}
    (hs : (credit account amount).runIn s = (.ok balance, s')) :
    s'.tx.InOrder b audited ∧ s'.tx.Roomy := by
  have hafter := maintains_credit account amount s h
  rw [hs] at hafter
  rw [runIn_credit] at hs
  split at hs
  · cases hs
    exact ⟨hafter, ⟨hroom.orders, hroom.checkpoints, hroom.events⟩⟩
  · cases hs

lemma roomy_of_debit {account : Account} {amount balance : UInt64}
    (hs : (debit account amount).runIn s = (.ok balance, s')) :
    s'.tx.InOrder b audited ∧ s'.tx.Roomy := by
  have hafter := maintains_debit account amount s h
  have hrest := (debited_of_debit h hs).1.rest
  rw [hs] at hafter
  refine ⟨hafter, ?_⟩
  rw [← hrest] at hroom
  exact ⟨hroom.orders, hroom.checkpoints, hroom.events⟩

lemma spared_placeOrder (c : Capability) (request : OrderRequest) :
    s.Spared ((placeOrder c request).runIn s) := by
  rw [placeOrder_steps]
  refine spared_ensure (spared_bind (spared_credit _ _) fun balance s' hs => ?_)
  obtain ⟨hafter, hroom'⟩ := roomy_of_credit h hroom hs
  rw [runIn_fileOrder hafter hroom'.orders, if_pos fun _ => hroom'.events]
  exact spared_of_ok rfl

lemma spared_fileRoot (root : Root) (maxBytes : UInt64) :
    s.Spared ((fileRoot root maxBytes).runIn s) := by
  rw [runIn_fileRoot]
  cases hv : validateRoot root maxBytes with
  | error f => exact spared_of_error (by simp [category_validateRoot hv]) rfl rfl
  | ok =>
    cases hu : s.tx.checkpoints.findUnique? root.bytes with
    | some existing => exact spared_of_error (by simp [Failure.category]) rfl rfl
    | none =>
      dsimp only
      rw [runIn_enterRoot h hroom.checkpoints hu, if_pos fun _ => hroom.events]
      exact spared_of_ok rfl

lemma spared_recordCheckpoint (c : Capability) (root : Root) (maxBytes : UInt64) :
    s.Spared ((recordCheckpoint c root maxBytes).runIn s) := by
  rw [recordCheckpoint_steps]
  exact spared_bind (spared_of_ok rfl) fun o s' hs => by
    obtain ⟨-, rfl⟩ := Prod.mk.inj hs
    exact spared_ensure (spared_fileRoot h hroom root maxBytes)

variable [Payer γ]

lemma spared_or_rejected_withdraw {c : Capability} {receiver : Account} {amount : UInt64}
    {f : Failure} (hf : (withdraw c receiver amount).runIn s = (.error (.failed f), s')) :
    (f.category ≠ .externalCollaborator ∧ s'.tx = s.tx ∧ s'.payer = s.payer) ∨
      ∃ reason, f = .transferRejected receiver amount reason ∧
        s.tx.DrawnUpon s'.tx receiver amount ∧
        Payer.pay s.payer ⟨receiver, amount⟩ = (.rejected reason, s'.payer) := by
  rw [withdraw_steps] at hf
  change ((check (c.ensure .withdraw s.tx.owner) >>= fun _ => debit s.tx.owner amount >>=
    fun balance => emit (.withdrawn receiver amount) >>= fun _ =>
      pay ⟨receiver, amount⟩ >>= heed receiver amount balance).runIn s) = _ at hf
  cases he : c.ensure .withdraw s.tx.owner with
  | error f' =>
    rw [he] at hf
    cases hf
    exact .inl ⟨Capability.category_of_ensure he, rfl, rfl⟩
  | ok =>
    rw [he, check_ok, pure_bind, runIn_bind] at hf
    rcases hd : (debit s.tx.owner amount).runIn s with ⟨e | balance, s₁⟩
    · rw [hd] at hf
      cases hf
      exact .inl ((spared_debit s.tx.owner amount).unchanged hd)
    · -- From here on only the payer can stand in the way.
      obtain ⟨hdebited, hpayer⟩ := debited_of_debit h hd
      obtain ⟨hin, hroom₁⟩ := roomy_of_debit h hroom hd
      rw [hd] at hf
      dsimp only at hf
      rw [runIn_bind, runIn_emit_noting hin fun _ => hroom₁.events] at hf
      dsimp only at hf
      rw [runIn_bind, runIn_pay, hpayer] at hf
      rcases hv : Payer.pay s.payer ⟨receiver, amount⟩ with ⟨_ | reason | _, p⟩
      · rw [hv] at hf
        cases hf
      · rw [hv] at hf
        cases hf
        exact .inr ⟨reason, rfl, .of_debited hdebited hin, rfl⟩
      · rw [hv] at hf
        cases hf

end Calls

end Staging

variable {γ : Type} [Payer γ]

lemma Call.spared_or_rejected {s s' : Session γ} {b : Books} {audited : Bool}
    (h : s.tx.InOrder b audited) (hroom : s.tx.Roomy) {c : Call} {f : Failure}
    (hf : c.respond.runIn s = (.error (.failed f), s')) :
    (f.category ≠ .externalCollaborator ∧ s'.tx = s.tx ∧ s'.payer = s.payer) ∨
      ∃ capability receiver amount reason, c = .withdraw capability receiver amount ∧
        f = .transferRejected receiver amount reason ∧ s.tx.DrawnUpon s'.tx receiver amount ∧
        Payer.pay s.payer ⟨receiver, amount⟩ = (.rejected reason, s'.payer) := by
  cases c with
  | credit account amount =>
    exact .inl ((Staging.spared_credit account amount).unchanged (Staging.runIn_of_bind_pure hf))
  | debit account amount =>
    exact .inl ((Staging.spared_debit account amount).unchanged (Staging.runIn_of_bind_pure hf))
  | placeOrder c request =>
    exact .inl ((Staging.spared_placeOrder h hroom c request).unchanged
      (Staging.runIn_of_bind_pure hf))
  | record c root maxBytes =>
    exact .inl ((Staging.spared_recordCheckpoint h hroom c root maxBytes).unchanged
      (Staging.runIn_of_bind_pure hf))
  | withdraw c receiver amount =>
    rcases Staging.spared_or_rejected_withdraw h hroom (Staging.runIn_of_bind_pure hf) with
      hspared | ⟨reason, hreason⟩
    · exact .inl hspared
    · exact .inr ⟨c, receiver, amount, reason, rfl, hreason⟩

lemma Watched.asked_of_pay {w w' : Watched γ} {i : Instruction} {v : Verdict}
    (h : Payer.pay w i = (v, w')) : w'.asked = w.asked ++ [(i, v)] := by
  have hasked : (Payer.pay w i).2.asked = w.asked ++ [(i, (Payer.pay w i).1)] := rfl
  rw [h] at hasked
  exact hasked

structure Session.LeftBy (s : Session (Watched γ)) (c : Call) (f : Failure)
    (s' : Session (Watched γ)) : Prop where
  untouched : (∀ receiver amount reason, f ≠ .transferRejected receiver amount reason) →
    s'.tx = s.tx ∧ s'.payer = s.payer
  rejected : ∀ receiver amount reason, f = .transferRejected receiver amount reason →
    (∃ capability, c = .withdraw capability receiver amount) ∧
      s.tx.DrawnUpon s'.tx receiver amount ∧
      s'.payer.asked = s.payer.asked ++ [(⟨receiver, amount⟩, .rejected reason)]

/-- A call that fails in a transaction over books that transactions have led to changes nothing in it
and does not reach the payer, unless it is a withdrawal that the payer rejects. What that has staged
by then stays. -/
theorem failed_call_leftBy (owner : Account) (deeds : List (Deed γ)) (payer : Watched γ)
    (audited : Bool) (stamp : Stamp) (acts : List Act) (c : Call) :
    let start : Custody (Watched γ) := ⟨.reached owner deeds, payer⟩
    let s := ((start.session audited stamp).enact acts).2
    s.tx.Roomy → ∀ f s', c.respond.runIn s = (.error (.failed f), s') → s.LeftBy c f s' := by
  intro start s hroom f s' hf
  have hbegin : (start.session audited stamp).tx.InOrder start.books audited :=
    Books.inOrder_reached owner deeds stamp audited
  rcases Call.spared_or_rejected (Session.enact_inOrder hbegin acts) hroom hf with
    ⟨hcategory, hspared⟩ | ⟨capability, receiver, amount, reason, rfl, rfl, hdrawn, hpay⟩
  · refine ⟨fun _ => hspared, ?_⟩
    rintro receiver amount reason rfl
    exact absurd rfl hcategory
  · refine ⟨fun hne => absurd rfl (hne receiver amount reason), ?_⟩
    rintro _ _ _ ⟨⟩
    exact ⟨⟨capability, rfl⟩, hdrawn, Watched.asked_of_pay hpay⟩

def fundedKeeper : List (Deed RecordingPayer) :=
  [⟨.ofSeconds 0, true, {}, [.call (.credit ⟨"keeper"⟩ 5)]⟩]

def keeperActs : List Act :=
  [.emit (.withdrawn ⟨"bob"⟩ 1), .call (.debit ⟨"ann"⟩ 2), .call (.credit ⟨"ann"⟩ 2)]

theorem failed_call_leftBy_blocked :
    let start : Custody (Watched RecordingPayer) :=
      ⟨.reached ⟨"keeper"⟩ fundedKeeper, ⟨{ blocked := [⟨"ann"⟩] }, []⟩⟩
    let s := ((start.session true (.ofSeconds 1)).enact keeperActs).2
    let overdraw : Call := .withdraw ⟨.withdraw, ⟨"keeper"⟩⟩ ⟨"ann"⟩ 6
    let payOut : Call := .withdraw ⟨.withdraw, ⟨"keeper"⟩⟩ ⟨"ann"⟩ 3
    s.tx.Roomy ∧
      (overdraw.respond.runIn s).1 = .error (.failed (.insufficientFunds ⟨"keeper"⟩ 6 5)) ∧
      s.LeftBy overdraw (.insufficientFunds ⟨"keeper"⟩ 6 5) (overdraw.respond.runIn s).2 ∧
      (payOut.respond.runIn s).1 =
        .error (.failed (.transferRejected ⟨"ann"⟩ 3 "receiver ann is blocked")) ∧
      s.LeftBy payOut (.transferRejected ⟨"ann"⟩ 3 "receiver ann is blocked")
        (payOut.respond.runIn s).2 := by
  intro start s overdraw payOut
  have hroom : s.tx.Roomy := ⟨by decide, by decide, by decide⟩
  have hover : (overdraw.respond.runIn s).1 =
      .error (.failed (.insufficientFunds ⟨"keeper"⟩ 6 5)) := by decide
  have hpaid : (payOut.respond.runIn s).1 =
      .error (.failed (.transferRejected ⟨"ann"⟩ 3 "receiver ann is blocked")) := by decide
  have hleft := failed_call_leftBy ⟨"keeper"⟩ fundedKeeper
    ⟨{ blocked := [⟨"ann"⟩] }, []⟩ true (.ofSeconds 1) keeperActs
  exact ⟨hroom, hover, hleft overdraw hroom _ _ (Prod.ext hover rfl), hpaid,
    hleft payOut hroom _ _ (Prod.ext hpaid rfl)⟩

end Depository
