import Depository.Proofs.Calls
import Depository.Proofs.Store.Adding

namespace Depository

open Store

structure Tally where
  deposits : Nat := 0
  orders : Nat := 0
  checkpoints : Nat := 0
  events : Nat := 0
  deriving DecidableEq, Repr

def Tally.total (n : Tally) : Nat :=
  n.deposits + n.orders + n.checkpoints + n.events

def Request.tally (b : Books) (audited : Bool) : Request → Tally
  | deposit .. => { deposits := 1, events := audited.toNat }
  | debit account _ =>
    { deposits := (b.deposits.get? account).isSome.toNat, events := audited.toNat }
  | placeOrder _ => { deposits := 1, orders := 1, events := audited.toNat }
  | recordRoot _ | recordHex _ => { checkpoints := 1, events := audited.toNat }
  | withdraw .. =>
    { deposits := (b.deposits.get? b.owner).isSome.toNat, events := audited.toNat }
  | transferOwnership _ => { events := audited.toNat }

namespace Transaction

def tally (t : Transaction) : Tally :=
  ⟨t.deposits.writes.length, t.orders.writes.length, t.checkpoints.writes.length,
    t.events.writes.length⟩

structure Counts (t : Transaction) (audited : Bool) (n : Tally) : Prop where
  audited : t.audited = audited
  tally : t.tally = n

end Transaction

namespace Store.Overlay

variable {ρ κ : Type} [Ord κ] {s : Schema ρ κ} {o o' : Overlay s} {r : ρ}

lemma length_of_insert_first [DecidableEq κ] (h : o.writes.length = 0) (ho : o.insert r = .ok o') :
    o'.writes.length = 1 := by
  obtain rfl := eq_stage_of_upsert (insert_eq_ok ho)
  rw [stage, List.length_eq_zero_iff.mp h]
  rfl

end Store.Overlay

namespace Staging

variable {γ α β : Type} {P Q R : Transaction → Prop}

def Yields (P : Transaction → Prop) (m : Staging γ α) (Q : Transaction → Prop) : Prop :=
  ∀ s s' a, P s.tx → m.runIn s = (.ok a, s') → Q s'.tx

lemma Yields.bind {m : Staging γ α} {f : α → Staging γ β} (hm : Yields P m Q)
    (hf : ∀ a, Yields Q (f a) R) : Yields P (m >>= f) R := by
  intro s s' b hs hrun
  rw [runIn_bind] at hrun
  rcases h : m.runIn s with ⟨e | a, s₁⟩
  · rw [h] at hrun
    cases hrun
  · rw [h] at hrun
    exact hf a s₁ s' b (hm s s₁ a hs h) hrun

lemma Yields.of_imp {m : Staging γ α} (h : ∀ t, P t → Q t) (hm : Yields Q m R) : Yields P m R :=
  fun s s' a hs => hm s s' a (h s.tx hs)

lemma yields_of_frame {m : Staging γ α} (h : ∀ s, (m.runIn s).2.tx = s.tx) : Yields P m P := by
  intro s s' a hs hrun
  have htx := h s
  rw [hrun] at htx
  exact htx ▸ hs

lemma yields_pure (a : α) : Yields P (pure a : Staging γ α) P :=
  yields_of_frame fun _ => rfl

lemma yields_fail (f : Failure) : Yields P (fail f : Staging γ α) Q := by
  intro s s' a _ hrun
  cases hrun

lemma yields_check (x : Except Failure α) : Yields P (check x : Staging γ α) P := by
  cases x with
  | ok a => exact yields_pure a
  | error f => exact yields_fail f

lemma yields_owner {o : Account} {f : Account → Staging γ β} (ho : ∀ t, P t → t.owner = o)
    (hf : Yields P (f o) Q) : Yields P (owner >>= f) Q := by
  intro s s' b hs hrun
  exact hf s s' b hs (ho s.tx hs ▸ hrun)

section Counting

variable {audited : Bool} {n : Tally}

lemma yields_emit (kind : EventKind) (hn : n.events = 0) :
    Yields (·.Counts audited n) (emit kind : Staging γ Unit)
      (·.Counts audited { n with events := audited.toNat }) := by
  rintro s s' _ ⟨rfl, rfl⟩ hrun
  rw [runIn_emit_eq] at hrun
  cases ha : s.tx.audited with
  | false =>
    rw [ha] at hrun
    cases hrun
    exact ⟨ha, by rw [Bool.toNat_false, ← hn]⟩
  | true =>
    rcases hall : s.tx.events.allocate with f | ⟨seq, events⟩
    · simp [ha, hall] at hrun
    · obtain ⟨-, -, hwrites, -⟩ := Overlay.next_le_of_allocate hall
      simp only [ha, hall, if_true] at hrun
      split at hrun
      · cases hrun
      · next hins =>
        cases hrun
        have hlength := Overlay.length_of_insert_first (hwrites.symm ▸ hn) hins
        exact ⟨rfl, by rw [Transaction.tally, hlength]; rfl⟩

lemma yields_allocateOrderId :
    Yields (·.Counts audited n) (allocateOrderId : Staging γ OrderId) (·.Counts audited n) := by
  rintro s s' id ⟨rfl, rfl⟩ hrun
  rw [runIn_allocateOrderId] at hrun
  split at hrun <;> cases hrun
  exact ⟨rfl, rfl⟩

lemma yields_allocateCheckpointId :
    Yields (·.Counts audited n) (allocateCheckpointId : Staging γ CheckpointId)
      (·.Counts audited n) := by
  rintro s s' id ⟨rfl, rfl⟩ hrun
  rw [runIn_allocateCheckpointId] at hrun
  split at hrun <;> cases hrun
  exact ⟨rfl, rfl⟩

lemma yields_insertOrder (o : Order) (hn : n.orders = 0) :
    Yields (·.Counts audited n) (insertOrder o : Staging γ Unit)
      (·.Counts audited { n with orders := 1 }) := by
  rintro s s' _ ⟨rfl, rfl⟩ hrun
  rw [runIn_insertOrder_eq] at hrun
  split at hrun <;> cases hrun
  next hins =>
    exact ⟨rfl, by rw [Transaction.tally, Overlay.length_of_insert_first hn hins]; rfl⟩

lemma yields_insertCheckpoint (c : Checkpoint) (hn : n.checkpoints = 0) :
    Yields (·.Counts audited n) (insertCheckpoint c : Staging γ Unit)
      (·.Counts audited { n with checkpoints := 1 }) := by
  rintro s s' _ ⟨rfl, rfl⟩ hrun
  rw [runIn_insertCheckpoint_eq] at hrun
  split at hrun <;> cases hrun
  next hins =>
    exact ⟨rfl, by rw [Transaction.tally, Overlay.length_of_insert_first hn hins]; rfl⟩

end Counting

section Requests

variable {b : Books} {stamp : Stamp} {audited : Bool}

lemma counts_begin {t : Transaction} (h : t = .begin stamp b audited) : t.Counts audited {} := by
  subst h
  exact ⟨rfl, rfl⟩

lemma owner_begin {t : Transaction} (h : t = .begin stamp b audited) : t.owner = b.owner := by
  subst h
  rfl

lemma yields_credit (account : Account) (amount : UInt64) :
    Yields (· = .begin stamp b audited) (credit account amount : Staging γ UInt64)
      (·.Counts audited { deposits := 1 }) := by
  intro s s' balance hs hrun
  rw [runIn_credit, hs] at hrun
  split at hrun <;> cases hrun
  exact ⟨rfl, rfl⟩

lemma yields_debit (account : Account) (amount : UInt64) :
    Yields (· = .begin stamp b audited) (debit account amount : Staging γ UInt64)
      (·.Counts audited { deposits := (b.deposits.get? account).isSome.toNat }) := by
  intro s s' balance hs hrun
  have hbase : s.tx.deposits.get? account = b.deposits.get? account := by
    rw [hs]
    exact Overlay.get?_begin _ _
  cases hget : b.deposits.get? account with
  | none =>
    rw [runIn_debit_unknown s (hbase.trans hget)] at hrun
    split at hrun <;> cases hrun
    exact counts_begin hs
  | some d =>
    rw [runIn_debit_known s (hbase.trans hget), hs] at hrun
    split at hrun <;> cases hrun
    exact ⟨rfl, rfl⟩

lemma yields_recordCheckpoint (c : Capability) (root : Root) (maxBytes : UInt64) :
    Yields (· = .begin stamp b audited) (recordCheckpoint c root maxBytes : Staging γ CheckpointId)
      (·.Counts audited { checkpoints := 1, events := audited.toNat }) := by
  rw [recordCheckpoint_steps]
  refine yields_owner (fun _ => owner_begin) ((yields_check _).bind fun _ => ?_)
  refine (yields_check _).bind fun _ => (yields_of_frame fun _ => rfl).bind fun holder => ?_
  cases holder with
  | some existing => exact (yields_of_frame fun _ => rfl).bind fun _ => yields_fail _
  | none =>
    refine .of_imp (fun _ => counts_begin) (yields_allocateCheckpointId.bind fun id => ?_)
    exact (yields_emit _ rfl).bind fun _ => (yields_insertCheckpoint _ rfl).bind fun _ =>
      yields_pure id

lemma yields_heed (receiver : Account) (amount balance : UInt64) (verdict : Verdict) :
    Yields P (heed receiver amount balance verdict : Staging γ Unit) P := by
  cases verdict with
  | accepted => exact yields_of_frame fun _ => rfl
  | rejected reason => exact (yields_of_frame fun _ => rfl).bind fun _ => yields_fail _
  | panicked =>
    intro s s' a _ hrun
    cases hrun

variable (stamp) in
lemma yields_stage [Payer γ] (maxRootBytes : UInt64) (c : Capability) (r : Request) :
    Yields (· = .begin stamp b audited) (r.stage maxRootBytes c : Staging γ Reply)
      (·.Counts audited (r.tally b audited)) := by
  cases r with
  | deposit account amount =>
    have hcredit : Yields (· = .begin stamp b audited)
        (credit account amount >>= fun balance =>
          emit (.deposited account amount balance) >>= fun _ => pure balance : Staging γ UInt64)
        (·.Counts audited { deposits := 1, events := audited.toNat }) :=
      (yields_credit account amount).bind fun balance => (yields_emit _ rfl).bind fun _ =>
        yields_pure balance
    refine Yields.bind ((yields_check _).bind fun _ => ?_) fun _ => yields_pure _
    split
    · exact (yields_fail _).bind fun _ => hcredit
    · exact hcredit
  | debit account amount =>
    refine Yields.bind ?_ fun _ => yields_pure _
    rw [debitFunds_steps]
    refine yields_owner (fun _ => owner_begin) ((yields_check _).bind fun _ => ?_)
    exact (yields_debit _ _).bind fun _ => (yields_emit _ rfl).bind fun _ => yields_pure _
  | placeOrder o =>
    refine Yields.bind ?_ fun _ => yields_pure _
    rw [placeOrder_steps]
    refine (yields_check _).bind fun _ => (yields_credit _ _).bind fun balance =>
      yields_allocateOrderId.bind fun id => (yields_emit _ rfl).bind fun _ => ?_
    exact (yields_of_frame fun _ => rfl).bind fun _ => (yields_insertOrder _ rfl).bind fun _ =>
      yields_pure id
  | recordRoot root => exact (yields_recordCheckpoint c root _).bind fun _ => yields_pure _
  | recordHex text =>
    exact (yields_check _).bind fun root =>
      (yields_recordCheckpoint c root _).bind fun _ => yields_pure _
  | withdraw receiver amount =>
    refine Yields.bind ?_ fun _ => yields_pure _
    rw [withdraw_steps]
    refine yields_owner (fun _ => owner_begin) ((yields_check _).bind fun _ => ?_)
    exact (yields_debit _ _).bind fun balance => (yields_emit _ rfl).bind fun _ =>
      (yields_of_frame fun _ => rfl).bind fun verdict => yields_heed _ _ balance verdict
  | transferOwnership new =>
    refine Yields.bind ?_ fun _ => yields_pure _
    rw [transferOwnership_steps]
    refine yields_owner (fun _ => owner_begin) ((yields_check _).bind fun _ => ?_)
    split
    · exact yields_fail _
    · refine .of_imp (fun _ => counts_begin) ((yields_emit _ rfl).bind fun _ => ?_)
      rintro s s' _ ⟨rfl, htally⟩ hrun
      cases hrun
      exact ⟨rfl, htally⟩

lemma yields_attempt [Payer γ] (maxRootBytes : UInt64) (caller : Account) (r : Request) :
    Yields (· = .begin stamp b audited) (r.attempt maxRootBytes caller : Staging γ Reply)
      (·.Counts audited (r.tally b audited)) := by
  rw [attempt_steps]
  refine yields_owner (fun _ => owner_begin)
    (Yields.bind ?_ fun c => yields_stage stamp maxRootBytes c r)
  cases Capability.grant r.operation caller b.owner r.subject with
  | ok c => exact yields_pure c
  | error f =>
    intro s s' c _ hrun
    rw [runIn_granted_error] at hrun
    cases hrun

end Requests

end Staging

end Depository
