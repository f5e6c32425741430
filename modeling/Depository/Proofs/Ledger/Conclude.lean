import Depository.Proofs.Ledger.Ruling

namespace Depository

open Store

namespace Ledger

variable {γ : Type}

def conclude (l : Ledger γ) : Except Abort Reply × Session γ → Except Abort Reply × Ledger γ
  | (.ok reply, s) =>
    (.ok reply, { l with books := l.books.apply s.tx.changes, payer := s.payer })
  | (.error e, s) => (.error e, { l with payer := s.payer })

structure Unnoted (l : Ledger γ) (stamp : Stamp) (t : Transaction) : Prop where
  events : t.events = .begin l.books.events
  audited : t.audited = l.settings.eventLog
  stamp : t.stamp = stamp

variable {l : Ledger γ} {stamp : Stamp}

lemma conclude_error {e : Abort} {s : Session γ} (hp : s.payer = l.payer) :
    l.conclude (.error e, s) = (.error e, l) := by
  rw [conclude, hp]

section Start

variable (h : l.books.Sound)

include h

variable (stamp) in
lemma depositOf_session (account : Account) :
    (l.session stamp).tx.depositOf account = ⟨account, l.books.balanceOf account⟩ := by
  have hget : (l.session stamp).tx.deposits.get? account = l.books.deposits.get? account :=
    Overlay.get?_begin _ _
  rw [Transaction.depositOf, hget, Books.balanceOf]
  cases hd : l.books.deposits.get? account with
  | none => rfl
  | some d =>
    obtain ⟨-, rfl⟩ := (Books.get?_deposits_eq_some_iff h).mp hd
    rfl

lemma findUnique?_session (stamp : Stamp) (root : Root) :
    (l.session stamp).tx.checkpoints.findUnique? root.bytes = l.books.findCheckpoint root :=
  Overlay.findUnique?_begin checkpointSchema_index h.checkpoints.ascending h.roots _

lemma Unnoted.runIn_emit {s : Session γ} (hs : l.Unnoted stamp s.tx) (kind : EventKind) :
    (Staging.emit kind).runIn s =
      if l.settings.eventLog ∧ ¬ HasNext l.books.events.nextSeq then
        (.error (.failed (.idSpaceExhausted "event")), s)
      else (.ok (), { s with tx := s.tx.noting kind }) := by
  have hfresh : s.tx.events.get? s.tx.events.nextSeq = none := by
    rw [hs.events]
    exact (Overlay.get?_begin _ _).trans h.events.find?_next
  rw [Staging.runIn_emit s hfresh, hs.audited, hs.events]
  rfl

variable [Payer γ]

lemma Unnoted.conclude_emit {s : Session γ} (hs : l.Unnoted stamp s.tx) (hp : s.payer = l.payer)
    {kind : EventKind} (hk : kind.payout? = none) {m : Staging γ Reply} {t : Transaction}
    (ht : l.Unnoted stamp t) (hc : l.books.apply t.changes = l.books.carryOut kind)
    (hm : ∃ log, m.runIn { s with tx := s.tx.noting kind } =
      (.ok kind.reply, ⟨t.noting kind, l.payer, log⟩)) :
    l.conclude ((Staging.emit kind >>= fun _ => m).runIn s) =
      l.follow stamp (l.books.withRoom l.settings.eventLog (.ok kind)) := by
  rw [Staging.runIn_bind, hs.runIn_emit h]
  by_cases hn : l.settings.eventLog = true ∧ ¬ HasNext l.books.events.nextSeq
  · rw [if_pos hn, Books.withRoom, if_pos hn]
    exact conclude_error hp
  · obtain ⟨log, hlog⟩ := hm
    have hbooks := Books.apply_noting h ht.events hc
    rw [ht.audited, ht.stamp] at hbooks
    rw [if_neg hn, Books.withRoom, if_neg hn]
    simp only [hlog, conclude, hbooks, follow, settle, hk]

end Start

section Movements

variable (stamp) (h : l.books.Sound)

include h

lemma credit_over {account : Account} {amount : UInt64}
    (ho : UInt64.size ≤ (l.books.balanceOf account).toNat + amount.toNat) :
    (Staging.credit account amount).runIn (l.session stamp) =
      (.error (.failed (.balanceOverflow account (l.books.balanceOf account) amount)),
        l.session stamp) := by
  have hno : (⟨account, l.books.balanceOf account⟩ : Deposit).credited amount =
      .error (.balanceOverflow account (l.books.balanceOf account) amount) :=
    if_neg (Nat.not_lt.mpr ho)
  rw [Staging.runIn_credit, depositOf_session stamp h, hno]

lemma credit_fits {account : Account} {amount : UInt64}
    (ho : ¬ UInt64.size ≤ (l.books.balanceOf account).toNat + amount.toNat) :
    ∃ t log, (Staging.credit account amount).runIn (l.session stamp) =
        (.ok (l.books.balanceOf account + amount), ⟨t, l.payer, log⟩) ∧
      l.Unnoted stamp t ∧ t.orders = .begin l.books.orders ∧
      l.books.apply t.changes =
        l.books.setBalance account (l.books.balanceOf account + amount) := by
  have hyes : (⟨account, l.books.balanceOf account⟩ : Deposit).credited amount =
      .ok ⟨account, l.books.balanceOf account + amount⟩ :=
    if_pos (Nat.not_le.mp ho)
  rw [Staging.runIn_credit, depositOf_session stamp h, hyes]
  exact ⟨_, _, rfl, ⟨rfl, rfl, rfl⟩, rfl, Books.apply_withDeposit _⟩

lemma debit_short {account : Account} {amount : UInt64}
    (hlt : l.books.balanceOf account < amount) :
    (Staging.debit account amount).runIn (l.session stamp) =
      (.error (.failed (.insufficientFunds account amount (l.books.balanceOf account))),
        l.session stamp) := by
  have hd := depositOf_session stamp h account
  have hno : (⟨account, l.books.balanceOf account⟩ : Deposit).debited amount =
      .error (.insufficientFunds account amount (l.books.balanceOf account)) :=
    if_neg (UInt64.not_le.mpr hlt)
  cases hget : (l.session stamp).tx.deposits.get? account with
  | none =>
    rw [Transaction.depositOf, hget, Option.getD_none] at hd
    rw [Staging.runIn_debit_unknown _ hget, hd, hno]
  | some d =>
    rw [Transaction.depositOf, hget, Option.getD_some] at hd
    rw [Staging.runIn_debit_known _ hget, hd, hno]

lemma debit_covered {account : Account} {amount : UInt64}
    (hle : ¬ l.books.balanceOf account < amount) :
    ∃ t log, (Staging.debit account amount).runIn (l.session stamp) =
        (.ok (l.books.balanceOf account - amount), ⟨t, l.payer, log⟩) ∧
      l.Unnoted stamp t ∧
      l.books.apply t.changes =
        l.books.adjustBalance account (l.books.balanceOf account - amount) := by
  have hd := depositOf_session stamp h account
  have hyes : (⟨account, l.books.balanceOf account⟩ : Deposit).debited amount =
      .ok ⟨account, l.books.balanceOf account - amount⟩ :=
    if_pos (UInt64.not_lt.mp hle)
  have hbase : (l.session stamp).tx.deposits.get? account = l.books.deposits.get? account :=
    Overlay.get?_begin _ _
  cases hget : (l.session stamp).tx.deposits.get? account with
  | none =>
    rw [Transaction.depositOf, hget, Option.getD_none] at hd
    rw [Staging.runIn_debit_unknown _ hget, hd, hyes, Books.adjustBalance, ← hbase, hget]
    exact ⟨_, _, rfl, ⟨rfl, rfl, rfl⟩, Books.apply_begin⟩
  | some d =>
    rw [Transaction.depositOf, hget, Option.getD_some] at hd
    rw [Staging.runIn_debit_known _ hget, hd, hyes, Books.adjustBalance, ← hbase, hget]
    exact ⟨_, _, rfl, ⟨rfl, rfl, rfl⟩, Books.apply_withDeposit _⟩

end Movements

end Ledger

end Depository
