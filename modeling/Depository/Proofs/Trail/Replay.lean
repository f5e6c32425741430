import Depository.Proofs.Ledger.History
import Mathlib.Algebra.Group.Int.Defs

namespace Depository

/-- What the events so far come to, with balances that know no bounds. An account may have no
balance, which is not to have a balance of zero. -/
structure Replica where
  owner : Account
  balance : Account → Option Int := fun _ => none
  orders : List Order := []
  checkpoints : List Checkpoint := []
  accepted : List Instruction := []

namespace Replica

def add (m : Replica) (account : Account) (amount : UInt64) : Replica :=
  { m with
    balance := Function.update m.balance account
      (some ((m.balance account).getD 0 + amount.toNat)) }

def subtract (m : Replica) (account : Account) (amount : UInt64) : Replica :=
  { m with
    balance := Function.update m.balance account
      ((m.balance account).map fun balance => balance - amount.toNat) }

def apply (m : Replica) : EventKind → Replica
  | .deposited account amount _ => m.add account amount
  | .debited account amount _ => m.subtract account amount
  | .orderPlaced id owner price amount value _ =>
    { m.add owner value with orders := m.orders ++ [⟨id, owner, price, amount, value⟩] }
  | .checkpointRecorded id root => { m with checkpoints := m.checkpoints ++ [⟨id, root⟩] }
  | .withdrawn receiver amount =>
    { m.subtract m.owner amount with accepted := m.accepted ++ [⟨receiver, amount⟩] }
  | .ownershipTransferred _ new => { m with owner := new }

def replay (owner : Account) (kinds : List EventKind) : Replica :=
  kinds.foldl apply { owner := owner }

def InRange (m : Replica) : Prop :=
  ∀ account balance, m.balance account = some balance → 0 ≤ balance ∧ balance < 2 ^ 64

def Shows (m : Replica) (account : Account) (balance : UInt64) : Prop :=
  (m.balance account).getD 0 = balance.toNat

/-- What the event records beside its own amounts is what the replica says. -/
def Confirms (m : Replica) (kind : EventKind) : Prop :=
  match kind with
  | .deposited account _ balance => (m.apply kind).Shows account balance
  | .debited account _ balance => (m.apply kind).Shows account balance
  | .orderPlaced id owner _ _ _ balance =>
    id.value.toNat = m.orders.length ∧ (m.apply kind).Shows owner balance
  | .checkpointRecorded id _ => id.value.toNat = m.checkpoints.length
  | .withdrawn _ _ => True
  | .ownershipTransferred previous _ => previous = m.owner

structure Mirrors (m : Replica) (l : Ledger RecordingPayer) : Prop where
  owner : m.owner = l.owner
  ascending : depositSchema.Ascending l.books.deposits.rows
  rows : ∀ d, d ∈ l.books.deposits.rows ↔ m.balance d.account = some (d.amount.toNat : Int)
  accounts : ∀ account, (m.balance account).isSome ↔ ∃ d ∈ l.books.deposits.rows, d.account = account
  orders : m.orders = l.orders
  checkpoints : m.checkpoints = l.checkpoints
  accepted : m.accepted = l.payer.accepted

end Replica

namespace Books

def amountOf (b : Books) (account : Account) : Option Int :=
  (b.deposits.get? account).map fun d => (d.amount.toNat : Int)

variable {b : Books}

lemma amountOf_getD (account : Account) :
    (b.amountOf account).getD 0 = (b.balanceOf account).toNat := by
  rw [amountOf, balanceOf]
  cases b.deposits.get? account <;> rfl

lemma amountOf_range {account : Account} {n : Int} (h : b.amountOf account = some n) :
    0 ≤ n ∧ n < 2 ^ 64 := by
  obtain ⟨d, -, rfl⟩ := Option.map_eq_some_iff.mp h
  exact ⟨Int.natCast_nonneg _, by exact_mod_cast d.amount.toNat_lt⟩

lemma amountOf_setBalance (account : Account) (amount : UInt64) :
    (b.setBalance account amount).amountOf =
      Function.update b.amountOf account (some (amount.toNat : Int)) := by
  funext x
  rw [amountOf, get?_setBalance]
  by_cases hx : account = x
  · simp [hx]
  · simp [hx, Function.update, Ne.symm hx, amountOf]

lemma amountOf_adjustBalance {account : Account} {amount : UInt64}
    (h : amount ≤ b.balanceOf account) :
    (b.adjustBalance account (b.balanceOf account - amount)).amountOf =
      Function.update b.amountOf account
        ((b.amountOf account).map fun balance => balance - amount.toNat) := by
  rw [adjustBalance]
  cases hd : b.deposits.get? account with
  | none =>
    have hnone : b.amountOf account = none := by rw [amountOf, hd]; rfl
    rw [hnone]
    exact (Function.update_eq_self_iff.mpr hnone.symm).symm
  | some d =>
    have hbalance : b.balanceOf account = d.amount := by rw [balanceOf, hd]; rfl
    have hsome : b.amountOf account = some (d.amount.toNat : Int) := by rw [amountOf, hd]; rfl
    have hle : amount.toNat ≤ d.amount.toNat := UInt64.le_iff_toNat_le.mp (hbalance ▸ h)
    have hsub : (d.amount - amount).toNat = d.amount.toNat - amount.toNat :=
      UInt64.toNat_sub_of_le _ _ (hbalance ▸ h)
    have hcast : ((d.amount - amount).toNat : Int) = d.amount.toNat - amount.toNat := by omega
    rw [hbalance, hsome, Option.map_some, ← hcast]
    exact amountOf_setBalance account _

lemma amountOf_credited {account : Account} {amount : UInt64}
    (h : (b.balanceOf account).toNat + amount.toNat < UInt64.size) :
    ((b.balanceOf account + amount).toNat : Int) = (b.amountOf account).getD 0 + amount.toNat := by
  have hadd : (b.balanceOf account + amount).toNat =
      (b.balanceOf account).toNat + amount.toNat := by
    rw [UInt64.toNat_add]
    exact Nat.mod_eq_of_lt h
  rw [hadd, amountOf_getD]
  exact Int.natCast_add _ _

end Books

namespace Replica

variable {m : Replica} {b : Books}

structure Retells (m : Replica) (b : Books) : Prop where
  owner : m.owner = b.owner
  balance : m.balance = b.amountOf
  orders : m.orders = b.orders.rows
  checkpoints : m.checkpoints = b.checkpoints.rows

lemma Retells.inRange (h : m.Retells b) : m.InRange := by
  intro account balance hb
  rw [h.balance] at hb
  exact Books.amountOf_range hb

lemma Retells.shows (h : m.Retells b) (account : Account) :
    m.Shows account (b.balanceOf account) := by
  rw [Shows, h.balance]
  exact Books.amountOf_getD account

lemma Retells.add (h : m.Retells b) {account : Account} {amount : UInt64}
    (hlt : (b.balanceOf account).toNat + amount.toNat < UInt64.size) :
    (m.add account amount).Retells (b.setBalance account (b.balanceOf account + amount)) :=
  { h with
    balance := by
      rw [Books.amountOf_setBalance, Books.amountOf_credited hlt, ← h.balance]
      rfl }

lemma Retells.subtract (h : m.Retells b) {account : Account} {amount : UInt64}
    (hle : amount ≤ b.balanceOf account) :
    (m.subtract account amount).Retells
      (b.adjustBalance account (b.balanceOf account - amount)) := by
  have hbalance : (m.subtract account amount).balance =
      (b.adjustBalance account (b.balanceOf account - amount)).amountOf := by
    rw [Books.amountOf_adjustBalance hle, ← h.balance]
    rfl
  simp only [Books.adjustBalance] at hbalance ⊢
  split
  case isTrue hd =>
    rw [if_pos hd] at hbalance
    exact { h with balance := hbalance }
  case isFalse hd =>
    rw [if_neg hd] at hbalance
    exact { h with balance := hbalance }

lemma Retells.apply (h : m.Retells b) (hs : b.Sound) {kind : EventKind}
    (hw : b.Warrants kind) : (m.apply kind).Retells (b.carryOut kind) := by
  cases kind with
  | deposited account amount balance =>
    obtain ⟨hlt, rfl⟩ := hw
    exact h.add hlt
  | debited account amount balance =>
    obtain ⟨hle, rfl⟩ := hw
    exact h.subtract hle
  | orderPlaced id owner price amount value balance =>
    obtain ⟨hlt, rfl, rfl, -⟩ := hw
    have hrows := Store.Table.enter_rows_next hs.orders
      (r := ⟨⟨b.orders.nextSeq⟩, owner, price, amount, value⟩) rfl (b.orders.nextSeq + 1)
    exact { h.add hlt with orders := by rw [Replica.apply, h.orders, ← hrows]; rfl }
  | checkpointRecorded id root =>
    obtain ⟨-, rfl, -⟩ := hw
    have hrows := Store.Table.enter_rows_next hs.checkpoints
      (r := ⟨⟨b.checkpoints.nextSeq⟩, root⟩) rfl (b.checkpoints.nextSeq + 1)
    exact { h with checkpoints := by rw [Replica.apply, h.checkpoints, ← hrows]; rfl }
  | withdrawn receiver amount =>
    have hm : m.subtract m.owner amount = m.subtract b.owner amount := by rw [h.owner]
    have hsub : (m.subtract b.owner amount).Retells
        (b.adjustBalance b.owner (b.balanceOf b.owner - amount)) := h.subtract hw
    rw [← hm] at hsub
    exact { hsub with }
  | ownershipTransferred previous new => exact { h with owner := rfl }

lemma Retells.confirms (h : m.Retells b) (hs : b.Sound) {kind : EventKind}
    (hw : b.Warrants kind) : m.Confirms kind := by
  have hshows := (h.apply hs hw).shows
  have hset : ∀ account balance, (b.setBalance account balance).balanceOf account = balance :=
    fun account balance => by rw [Books.balanceOf_setBalance, Function.update_self]
  cases kind with
  | deposited account amount balance =>
    have hbalance : (b.carryOut (.deposited account amount balance)).balanceOf account = balance :=
      hset account balance
    exact hbalance ▸ hshows account
  | debited account amount balance =>
    have hbalance : (b.carryOut (.debited account amount balance)).balanceOf account = balance := by
      rw [Books.carryOut, hw.2, Books.balanceOf_adjustBalance hw.1, Function.update_self]
    exact hbalance ▸ hshows account
  | orderPlaced id owner price amount value balance =>
    have hbalance : (b.carryOut (.orderPlaced id owner price amount value balance)).balanceOf
        owner = balance := hset owner balance
    obtain ⟨-, -, rfl, -⟩ := hw
    refine ⟨?_, hbalance ▸ hshows owner⟩
    rw [h.orders, hs.orders.length]
  | checkpointRecorded id root =>
    obtain ⟨-, rfl, -⟩ := hw
    rw [Confirms, h.checkpoints, hs.checkpoints.length]
  | withdrawn => trivial
  | ownershipTransferred previous new => exact hw.trans h.owner.symm

variable {owner : Account}

/-- At each point of the trail, the event agrees with the events before it, and no balance leaves
its range. -/
def Consistent (owner : Account) (kinds : List EventKind) : Prop :=
  ∀ before kind after, kinds = before ++ kind :: after →
    (replay owner before).Confirms kind ∧ (replay owner (before ++ [kind])).InRange

lemma Consistent.concat {kinds : List EventKind} (h : Consistent owner kinds) {kind : EventKind}
    (hk : (replay owner kinds).Confirms kind)
    (hr : (replay owner (kinds ++ [kind])).InRange) :
    Consistent owner (kinds ++ [kind]) := by
  intro before next after he
  -- The point is either at the new event or at one of those before it.
  rcases List.eq_nil_or_concat after with rfl | ⟨after, last, rfl⟩
  · obtain ⟨rfl, hnext⟩ := List.append_inj' he rfl
    obtain rfl := List.singleton_inj.mp hnext
    exact ⟨hk, hr⟩
  · have hsplit : kinds ++ [kind] = (before ++ next :: after) ++ [last] := by
      rw [he]
      simp
    exact h before next after (List.append_inj' hsplit rfl).1

lemma replay_concat (owner : Account) (kinds : List EventKind) (kind : EventKind) :
    replay owner (kinds ++ [kind]) = (replay owner kinds).apply kind := by
  simp [replay]

end Replica

namespace Ledger

variable {l : Ledger RecordingPayer} {owner : Account}

def kinds (l : Ledger RecordingPayer) : List EventKind :=
  l.events.map Event.kind

structure Told (owner : Account) (l : Ledger RecordingPayer) : Prop where
  sound : l.books.Sound
  audited : l.settings.eventLog = true
  consistent : Replica.Consistent owner l.kinds
  books : (Replica.replay owner l.kinds).Retells l.books
  accepted : (Replica.replay owner l.kinds).accepted = l.payer.accepted

lemma Told.opened {settings : Settings} (h : settings.eventLog = true) :
    Told settings.owner ⟨{ owner := settings.owner }, settings, {}⟩ where
  sound := Books.Sound.opened settings.owner
  audited := h
  consistent before kind after he := absurd he (by simp [kinds, events])
  books := ⟨rfl, rfl, rfl, rfl⟩
  accepted := rfl

lemma Told.call (h : l.Told owner) (stamp : Stamp) (caller : Account) (r : Request) :
    (l.perform stamp caller r).ledger.Told owner := by
  rcases perform_cases h.sound stamp caller r with
    ⟨e, p, -, hl, hp⟩ | ⟨kind, p, hr, -, hl, hp⟩
  · rw [hl]
    exact { h with accepted := h.accepted.trans (accepted_of_refuses hp).symm }
  · obtain ⟨-, hj, hn⟩ := Books.ruling_eq_ok_iff.mp hr
    have hw := Books.judge_warrants hj
    have henact : l.books.enact l.settings.eventLog stamp kind =
        (l.books.carryOut kind).chronicle stamp kind := by
      rw [h.audited]
      rfl
    have hkinds : kinds { l with
        books := l.books.enact l.settings.eventLog stamp kind, payer := p } = l.kinds ++ [kind] := by
      rw [kinds, events, h.audited, h.sound.enact_rows, List.map_append]
      rfl
    have hbooks := h.books.apply h.sound hw
    have hreplay := Replica.replay_concat owner l.kinds kind
    rw [hl]
    refine ⟨h.sound.enact hw hn stamp, h.audited, ?_, ?_, ?_⟩
    · rw [hkinds]
      exact h.consistent.concat (h.books.confirms h.sound hw) (hreplay ▸ hbooks.inRange)
    · rw [hkinds, hreplay, henact]
      exact { hbooks with }
    · rw [hkinds, hreplay]
      dsimp only
      rw [accepted_of_settles hp, ← h.accepted]
      cases kind <;> simp [Replica.apply, Replica.add, Replica.subtract, EventKind.payout?]

lemma Told.turn (h : l.Told owner) (t : Turn) : (l.step t.step).Told owner := by
  cases t with
  | call stamp caller r => exact h.call stamp caller r
  | block | rejectAll | breakNext => exact { h with }

lemma Told.run (h : l.Told owner) (turns : List Turn) :
    (l.run (turns.map Turn.step)).Told owner := by
  refine run_invariant h _ fun s hs k hk => ?_
  obtain ⟨t, -, rfl⟩ := List.mem_map.mp hs
  exact hk.turn t

lemma Told.mirrors (h : l.Told owner) : (Replica.replay owner l.kinds).Mirrors l where
  owner := h.books.owner
  ascending := h.sound.deposits
  rows d := by
    rw [h.books.balance, Books.amountOf, Option.map_eq_some_iff]
    constructor
    · intro hd
      exact ⟨d, (Books.get?_deposits_eq_some_iff h.sound).mpr ⟨hd, rfl⟩, rfl⟩
    · rintro ⟨d', hd', hamount⟩
      obtain ⟨hmem, haccount⟩ := (Books.get?_deposits_eq_some_iff h.sound).mp hd'
      have hamount' : d'.amount = d.amount := UInt64.toNat_inj.mp (Int.ofNat_inj.mp hamount)
      have heq : d' = d := by
        cases d
        cases d'
        simp_all
      exact heq ▸ hmem
  accounts account := by
    rw [h.books.balance, Books.amountOf, Option.isSome_map, Option.isSome_iff_exists]
    exact exists_congr fun d => Books.get?_deposits_eq_some_iff h.sound
  orders := h.books.orders
  checkpoints := h.books.checkpoints
  accepted := h.accepted

/-- Whatever has happened to an audited ledger, its trail is consistent at every point, and
replaying it gives the ledger's rows, its owner and what its payer has accepted. -/
theorem replay_mirrors {settings : Settings} {log : List LogRecord}
    (hl : create settings ({} : RecordingPayer) = .ok (l, log)) (ha : settings.eventLog = true)
    (turns : List Turn) :
    eventSchema.Ascending (l.run (turns.map Turn.step)).events ∧
      Replica.Consistent settings.owner (l.run (turns.map Turn.step)).kinds ∧
      (Replica.replay settings.owner (l.run (turns.map Turn.step)).kinds).Mirrors
        (l.run (turns.map Turn.step)) := by
  obtain ⟨-, rfl, -⟩ := create_eq_ok_iff.mp hl
  have htold := (Told.opened ha).run turns
  exact ⟨htold.sound.events.ascending, htold.consistent, htold.mirrors⟩

theorem replay_mirrors_interrupted :
    let turns : List Turn :=
      [.call (.ofSeconds 0) ⟨"keeper"⟩ (.deposit ⟨"keeper"⟩ 5), .breakNext,
        .call (.ofSeconds 1) ⟨"keeper"⟩ (.withdraw ⟨"ann"⟩ 3),
        .call (.ofSeconds 2) ⟨"keeper"⟩ (.withdraw ⟨"ann"⟩ 3)]
    ∃ l log, create { owner := ⟨"keeper"⟩ } ({} : RecordingPayer) = .ok (l, log) ∧
      l.settings.eventLog = true ∧
      (l.run (turns.map Turn.step)).kinds =
        [.deposited ⟨"keeper"⟩ 5 5, .withdrawn ⟨"ann"⟩ 3] ∧
      (Replica.replay ⟨"keeper"⟩ [.deposited ⟨"keeper"⟩ 5 5, .withdrawn ⟨"ann"⟩ 3]).Mirrors
        (l.run (turns.map Turn.step)) := by
  intro turns
  have hl : create { owner := ⟨"keeper"⟩ } ({} : RecordingPayer) = .ok
      (⟨{ owner := ⟨"keeper"⟩ }, { owner := ⟨"keeper"⟩ }, {}⟩, _) :=
    create_eq_ok_iff.mpr ⟨by decide, rfl, rfl⟩
  obtain ⟨-, -, hmirrors⟩ := replay_mirrors hl rfl turns
  exact ⟨_, _, hl, rfl, by decide, hmirrors⟩

end Ledger

end Depository
