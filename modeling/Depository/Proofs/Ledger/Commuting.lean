import Depository.Proofs.Ledger.Isolation
import Depository.Proofs.Trail.Integrity

namespace Depository

open Store

namespace Request

def isCredit : Request → Bool
  | deposit .. | placeOrder _ => true
  | _ => false

def order? : Request → Option OrderRequest
  | placeOrder o => some o
  | _ => none

variable {r : Request}

lemma eq_of_isCredit (h : r.isCredit = true) :
    (∃ account amount, r = .deposit account amount) ∨ ∃ o, r = .placeOrder o := by
  cases r with
  | deposit account amount => exact .inl ⟨account, amount, rfl⟩
  | placeOrder o => exact .inr ⟨o, rfl⟩
  | debit | recordRoot | recordHex | withdraw | transferOwnership => cases h

end Request

def Step.ofCall {γ : Type} (c : Stamp × Account × Request) : Step γ :=
  .call c.1 c.2.1 c.2.2

def gains (account : Account) (cs : List (Account × Request)) : Nat :=
  (cs.map fun c => c.2.gain account).sum

def ordersOf (cs : List (Account × Request)) : List OrderRequest :=
  cs.filterMap fun c => c.2.order?

namespace Ledger

variable {γ : Type}

def AllAnswered [Payer γ] (l : Ledger γ) (steps : List (Step γ)) : Prop :=
  ∀ o ∈ l.answers steps, o.any Except.isOk = true

instance [Payer γ] (l : Ledger γ) (steps : List (Step γ)) : Decidable (l.AllAnswered steps) :=
  inferInstanceAs (Decidable (∀ o ∈ l.answers steps, o.any Except.isOk = true))

/-- The credits can all be made. Nothing that is said of them depends on their order. -/
structure Fits (l : Ledger γ) (cs : List (Account × Request)) : Prop where
  admitted : ∀ c ∈ cs, c.2.subject = some c.1 ∧ ∀ payee, c.2 ≠ .deposit payee 0
  balance : ∀ account, (l.balanceOf account).toNat + gains account cs < UInt64.size
  orders : l.orders.length + (ordersOf cs).length < UInt64.size
  events : l.settings.eventLog = true → l.events.length + cs.length < UInt64.size

structure CreditedBy (l : Ledger γ) (cs : List (Account × Request)) (m : Ledger γ) : Prop where
  balance : ∀ account, (m.balanceOf account).toNat = (l.balanceOf account).toNat + gains account cs
  rows : ∀ account, (m.books.deposits.get? account).isSome ↔
    (l.books.deposits.get? account).isSome ∨ ∃ c ∈ cs, c.2.Credits account
  orders : m.orders.map Order.request = l.orders.map Order.request ++ ordersOf cs
  events : m.events.length = l.events.length + if l.settings.eventLog then cs.length else 0
  checkpoints : m.checkpoints = l.checkpoints
  owner : m.owner = l.owner
  payer : m.payer = l.payer
  settings : m.settings = l.settings

/-- The ledgers hold the same, but for the order of their orders and what their events record. -/
structure AlikeButOrder (l m : Ledger γ) : Prop where
  deposits : m.books.deposits.rows = l.books.deposits.rows
  owner : m.owner = l.owner
  checkpoints : m.checkpoints = l.checkpoints
  payer : m.payer = l.payer
  nextOrderId : m.nextOrderId = l.nextOrderId
  nextCheckpointId : m.nextCheckpointId = l.nextCheckpointId
  events : m.events.length = l.events.length
  orders : (m.orders.map Order.request).Perm (l.orders.map Order.request)

end Ledger

namespace Books

variable {b : Books} {settings : Settings} {caller : Account} {r : Request}

lemma forall_fits_iff (b : Books) (payee : Account) (n : Nat) :
    (∀ account, (b.balanceOf account).toNat + (if payee = account then n else 0) < UInt64.size) ↔
      ¬ UInt64.size ≤ (b.balanceOf payee).toNat + n := by
  rw [Nat.not_le]
  refine ⟨fun h => by simpa using h payee, fun h account => ?_⟩
  split
  case isTrue he => exact he ▸ h
  case isFalse => exact (b.balanceOf account).toNat_lt

lemma exists_judge_iff (hr : r.isCredit = true) (maxRootBytes : UInt64) :
    (∃ kind, b.judge maxRootBytes r = .ok kind) ↔ (∀ payee, r ≠ .deposit payee 0) ∧
      (∀ account, (b.balanceOf account).toNat + r.gain account < UInt64.size) ∧
      (r.order? ≠ none → HasNext b.orders.nextSeq) := by
  cases r with
  | deposit payee amount =>
    simp only [Request.gain, forall_fits_iff, Request.order?, judge]
    by_cases h0 : amount = 0
    · simp [h0]
    · by_cases hover : UInt64.size ≤ (b.balanceOf payee).toNat + amount.toNat
      · simp only [if_neg h0, hover]
        simp
      · simp only [if_neg h0, hover]
        simp [h0]
  | placeOrder o =>
    simp only [Request.gain, forall_fits_iff, Request.order?, judge]
    by_cases hover : UInt64.size ≤ (b.balanceOf o.owner).toNat + o.value.toNat
    · simp only [hover]
      simp
    · by_cases hn : HasNext b.orders.nextSeq
      · simp [hover, hn]
      · simp [hover, hn]
  | debit | recordRoot | recordHex | withdraw | transferOwnership => cases hr

lemma exists_ruling_iff (hr : r.isCredit = true) (settings : Settings) (caller : Account) :
    (∃ kind, b.ruling settings caller r = .ok kind) ↔ r.subject = some caller ∧
      (∀ payee, r ≠ .deposit payee 0) ∧
      (∀ account, (b.balanceOf account).toNat + r.gain account < UInt64.size) ∧
      (r.order? ≠ none → HasNext b.orders.nextSeq) ∧
      (settings.eventLog = true → HasNext b.events.nextSeq) := by
  have hcaller : caller = r.principal b.owner ↔ r.subject = some caller := by
    rcases Request.eq_of_isCredit hr with ⟨account, amount, rfl⟩ | ⟨o, rfl⟩ <;>
      exact eq_comm.trans (Option.some.injEq ..).symm.to_iff
  have hjudge := exists_judge_iff (b := b) hr settings.maxRootBytes
  simp only [ruling_eq_ok_iff, exists_and_left, exists_and_right, hcaller, hjudge, and_assoc]

lemma Sound.get?_deposits_eq {b' : Books} (h : b.Sound) (h' : b'.Sound) {account : Account}
    (hsome : (b.deposits.get? account).isSome ↔ (b'.deposits.get? account).isSome)
    (hbalance : b.balanceOf account = b'.balanceOf account) :
    b.deposits.get? account = b'.deposits.get? account := by
  rw [balanceOf, balanceOf] at hbalance
  cases hd : b.deposits.get? account with
  | none =>
    rw [hd] at hsome
    exact (Option.not_isSome_iff_eq_none.mp fun hs => by simpa using hsome.mpr hs).symm
  | some d =>
    rw [hd] at hsome hbalance
    obtain ⟨d', hd'⟩ := Option.isSome_iff_exists.mp (hsome.mp rfl)
    rw [hd'] at hbalance ⊢
    obtain ⟨-, haccount⟩ := (get?_deposits_eq_some_iff h).mp hd
    obtain ⟨-, haccount'⟩ := (get?_deposits_eq_some_iff h').mp hd'
    obtain ⟨x, n⟩ := d
    obtain ⟨x', n'⟩ := d'
    obtain rfl : x = account := haccount
    obtain rfl : x' = x := haccount'
    obtain rfl : n = n' := hbalance
    rfl

end Books

namespace Ledger

variable {γ : Type} {l k m : Ledger γ} {cs ds : List (Account × Request)}

lemma gains_append (account : Account) (cs ds : List (Account × Request)) :
    gains account (cs ++ ds) = gains account cs + gains account ds := by
  rw [gains, List.map_append, List.sum_append]
  rfl

lemma ordersOf_append (cs ds : List (Account × Request)) :
    ordersOf (cs ++ ds) = ordersOf cs ++ ordersOf ds :=
  List.filterMap_append

lemma ordersOf_singleton (c : Account × Request) : ordersOf [c] = c.2.order?.toList := by
  cases hc : c.2.order? <;> simp [ordersOf, hc]

lemma Fits.nil (h : l.books.Sound) : l.Fits [] where
  admitted := by simp
  balance account := (l.balanceOf account).toNat_lt
  orders := h.orders.length ▸ l.books.orders.nextSeq.toNat_lt
  events _ := h.events.length ▸ l.books.events.nextSeq.toNat_lt

lemma Fits.perm (h : l.Fits cs) (hperm : cs.Perm ds) : l.Fits ds where
  admitted c hc := h.admitted c (hperm.mem_iff.mpr hc)
  balance account := by
    rw [gains, ← (hperm.map _).sum_eq]
    exact h.balance account
  orders := by
    rw [ordersOf, ← (hperm.filterMap _).length_eq]
    exact h.orders
  events := by
    rw [← hperm.length_eq]
    exact h.events

lemma CreditedBy.length_orders (h : l.CreditedBy cs k) :
    k.orders.length = l.orders.length + (ordersOf cs).length := by
  have hlength := congrArg List.length h.orders
  rwa [List.length_map, List.length_append, List.length_map] at hlength

lemma Fits.left (h : l.Fits (cs ++ ds)) : l.Fits cs where
  admitted c hc := h.admitted c (List.mem_append_left ds hc)
  balance account := by
    have hsum := h.balance account
    rw [gains_append] at hsum
    omega
  orders := by
    have hsum := h.orders
    rw [ordersOf_append, List.length_append] at hsum
    omega
  events ha := by
    have hsum := h.events ha
    rw [List.length_append] at hsum
    omega

lemma CreditedBy.fits_rest (h : l.CreditedBy cs k) (hfits : l.Fits (cs ++ ds)) : k.Fits ds where
  admitted c hc := hfits.admitted c (List.mem_append_right cs hc)
  balance account := by
    rw [h.balance, Nat.add_assoc, ← gains_append]
    exact hfits.balance account
  orders := by
    rw [h.length_orders, Nat.add_assoc, ← List.length_append, ← ordersOf_append]
    exact hfits.orders
  events ha := by
    rw [h.settings] at ha
    rw [h.events, if_pos ha, Nat.add_assoc, ← List.length_append]
    exact hfits.events ha

lemma CreditedBy.fits_append (h : l.CreditedBy cs k) (hcs : l.Fits cs) (hds : k.Fits ds) :
    l.Fits (cs ++ ds) where
  admitted c hc := (List.mem_append.mp hc).elim (hcs.admitted c) (hds.admitted c)
  balance account := by
    rw [gains_append, ← Nat.add_assoc, ← h.balance]
    exact hds.balance account
  orders := by
    rw [ordersOf_append, List.length_append, ← Nat.add_assoc, ← h.length_orders]
    exact hds.orders
  events ha := by
    have hevents := h.events
    rw [if_pos ha] at hevents
    rw [List.length_append, ← Nat.add_assoc, ← hevents]
    exact hds.events (h.settings.symm ▸ ha)

lemma CreditedBy.refl (l : Ledger γ) : l.CreditedBy [] l where
  balance _ := rfl
  rows _ := by simp
  orders := (List.append_nil _).symm
  events := by simp
  checkpoints := rfl
  owner := rfl
  payer := rfl
  settings := rfl

lemma CreditedBy.trans (h : l.CreditedBy cs k) (h' : k.CreditedBy ds m) :
    l.CreditedBy (cs ++ ds) m where
  balance account := by rw [h'.balance, h.balance, gains_append, Nat.add_assoc]
  rows account := by
    rw [h'.rows, h.rows, or_assoc]
    simp only [List.mem_append, or_and_right, exists_or]
  orders := by rw [h'.orders, h.orders, ordersOf_append, List.append_assoc]
  events := by
    rw [h'.events, h.events, h.settings, List.length_append]
    split <;> omega
  checkpoints := h'.checkpoints.trans h.checkpoints
  owner := h'.owner.trans h.owner
  payer := h'.payer.trans h.payer
  settings := h'.settings.trans h.settings

lemma fits_singleton_iff (h : l.books.Sound) {caller : Account} {r : Request}
    (hcredit : r.isCredit = true) :
    l.Fits [(caller, r)] ↔ ∃ kind, l.books.ruling l.settings caller r = .ok kind := by
  rw [Books.exists_ruling_iff hcredit]
  have horders : HasNext l.books.orders.nextSeq ↔ l.orders.length + 1 < UInt64.size := by
    rw [HasNext, ← h.orders.length]
    rfl
  have hevents : HasNext l.books.events.nextSeq ↔ l.events.length + 1 < UInt64.size := by
    rw [HasNext, ← h.events.length]
    rfl
  constructor
  · intro hfits
    obtain ⟨hsubject, hpositive⟩ := hfits.admitted _ List.mem_cons_self
    have hroom := hfits.orders
    rw [ordersOf_singleton] at hroom
    refine ⟨hsubject, hpositive, hfits.balance, fun ho => ?_, fun ha => ?_⟩
    · obtain ⟨o, ho⟩ := Option.ne_none_iff_exists'.mp ho
      rw [ho] at hroom
      exact horders.mpr hroom
    · exact hevents.mpr (hfits.events ha)
  · rintro ⟨hsubject, hpositive, hbalance, ho, he⟩
    refine ⟨by simpa using ⟨hsubject, hpositive⟩, hbalance, ?_, fun ha => hevents.mp (he ha)⟩
    rw [ordersOf_singleton]
    cases hro : r.order? with
    | none => exact (Fits.nil h).orders
    | some o => exact horders.mp (ho (by simp [hro]))

lemma CreditedBy.alike (h : l.CreditedBy cs k) (h' : l.CreditedBy ds m) (hperm : cs.Perm ds)
    (hk : k.books.Sound) (hm : m.books.Sound) : k.AlikeButOrder m where
  deposits := by
    -- Both tables ascend, so it is enough that each account is found with the same sum in them.
    refine hm.deposits.ext hk.deposits fun account => hm.get?_deposits_eq hk ?_ ?_
    · simp only [h.rows, h'.rows, hperm.mem_iff]
    · have hsum : gains account ds = gains account cs := (hperm.map _).sum_eq.symm
      refine UInt64.toNat_inj.mp ?_
      exact (h'.balance account).trans ((congrArg _ hsum).trans (h.balance account).symm)
  owner := h'.owner.trans h.owner.symm
  checkpoints := h'.checkpoints.trans h.checkpoints.symm
  payer := h'.payer.trans h.payer.symm
  nextOrderId := by
    have hlength : m.books.orders.rows.length = k.books.orders.rows.length := by
      have hcount : (ordersOf ds).length = (ordersOf cs).length :=
        (hperm.filterMap _).length_eq.symm
      exact h'.length_orders.trans (hcount ▸ h.length_orders.symm)
    rw [hm.orders.length, hk.orders.length] at hlength
    exact congrArg OrderId.mk (UInt64.toNat_inj.mp hlength)
  nextCheckpointId := by
    have hlength : m.books.checkpoints.rows.length = k.books.checkpoints.rows.length :=
      congrArg List.length (h'.checkpoints.trans h.checkpoints.symm)
    rw [hm.checkpoints.length, hk.checkpoints.length] at hlength
    exact congrArg CheckpointId.mk (UInt64.toNat_inj.mp hlength)
  events := by rw [h'.events, h.events, hperm.length_eq]
  orders := by
    rw [h'.orders, h.orders]
    exact (hperm.symm.filterMap _).append_left _

variable [Payer γ]

lemma creditedBy_perform (h : l.books.Sound) (stamp : Stamp) {caller : Account} {r : Request}
    (hcredit : r.isCredit = true) {kind : EventKind}
    (hr : l.books.ruling l.settings caller r = .ok kind) :
    (l.perform stamp caller r).outcome = .ok kind.reply ∧
      l.CreditedBy [(caller, r)] (l.perform stamp caller r).ledger := by
  have ha := Books.answers_of_ruling hr
  obtain ⟨hpayout, hloss, hheir, hroot⟩ : r.payout? = none ∧ (∀ x, r.loss l.books.owner x = 0) ∧
      (⟨l.books.owner, caller, r, kind.reply⟩ : Answered).heir? = none ∧ r.root? = none := by
    rcases Request.eq_of_isCredit hcredit with ⟨account, amount, rfl⟩ | ⟨o, rfl⟩ <;>
      exact ⟨rfl, fun _ => rfl, rfl, rfl⟩
  obtain ⟨ho, hl⟩ := perform_unpaid h stamp hr ((Books.ruling_payout hr).trans hpayout)
  have horder : kind.order?.map Order.request = r.order? := by
    have hplaced := congrArg (Option.map Prod.fst) ha.placed
    rw [Option.map_map] at hplaced
    refine hplaced.symm.trans ?_
    cases r <;> rfl
  have hcheckpoint : kind.checkpoint? = none := by
    have hrecorded := ha.recorded
    rw [Answered.recorded?, hroot] at hrecorded
    exact Option.map_eq_none_iff.mp hrecorded.symm
  have hrows := h.carryOut_orders ha.warrants
  have hcheckpoints := h.carryOut_checkpoints ha.warrants
  rw [hcheckpoint, Option.toList_none, List.append_nil] at hcheckpoints
  rw [hl]
  refine ⟨ho, ⟨fun account => ?_, fun account => ?_, ?_, ?_, ?_, ?_, rfl, rfl⟩⟩
  · have hbalance : _ + r.loss l.books.owner account = _ := ha.balance stamp account
    rw [hloss] at hbalance
    exact hbalance
  · exact (ha.isSome_deposit stamp account).trans (or_congr_right (by simp))
  · rw [orders, orders, Books.enact_orders, hrows, List.map_append, ← Option.toList_map, horder,
      ordersOf_singleton]
  · exact h.length_events l.settings.eventLog stamp kind
  · rw [checkpoints, checkpoints, Books.enact_checkpoints, hcheckpoints]
  · exact (ha.owner_enact stamp).trans (by rw [hheir]; rfl)

lemma run_credits (h : l.books.Sound) {calls : List (Stamp × Account × Request)}
    (hcredits : ∀ c ∈ calls, c.2.2.isCredit = true) :
    (l.AllAnswered (calls.map Step.ofCall) ↔ l.Fits (calls.map Prod.snd)) ∧
      (l.AllAnswered (calls.map Step.ofCall) →
        l.CreditedBy (calls.map Prod.snd) (l.run (calls.map Step.ofCall))) := by
  induction calls generalizing l with
  | nil => exact ⟨iff_of_true (by simp [AllAnswered, answers]) (.nil h), fun _ => .refl l⟩
  | cons c calls ih =>
    obtain ⟨stamp, caller, r⟩ := c
    obtain ⟨hcredit, hcredits⟩ := List.forall_mem_cons.mp hcredits
    have hfits : l.Fits [(caller, r)] ↔ _ := fits_singleton_iff h hcredit
    have hcons : l.AllAnswered (((stamp, caller, r) :: calls).map Step.ofCall) ↔
        (l.perform stamp caller r).outcome.isOk = true ∧
          (l.perform stamp caller r).ledger.AllAnswered (calls.map Step.ofCall) :=
      List.forall_mem_cons
    rw [hcons, List.map_cons, List.map_cons, ← List.singleton_append, run_cons]
    cases hr : l.books.ruling l.settings caller r with
    | error f =>
      have hno : (l.perform stamp caller r).outcome.isOk = true ↔ False := by
        rw [(perform_refused h stamp hr).1]
        exact Bool.false_eq_true ▸ Iff.rfl
      rw [hno, false_and]
      refine ⟨iff_of_false id fun hall => ?_, False.elim⟩
      obtain ⟨kind, hkind⟩ := hfits.mp hall.left
      cases hr.symm.trans hkind
    | ok kind =>
      obtain ⟨ho, hstep⟩ := creditedBy_perform h stamp hcredit hr
      obtain ⟨hiff, hrun⟩ := ih (h.step (.call stamp caller r)) hcredits
      rw [ho]
      refine ⟨⟨fun hall => ?_, fun hall => ⟨rfl, ?_⟩⟩, fun hall => hstep.trans (hrun hall.2)⟩
      · exact hstep.fits_append (hfits.mpr ⟨kind, hr⟩) (hiff.mp hall.2)
      · exact hiff.mpr (hstep.fits_rest hall)

/-- Credits that succeed in one order succeed in every other, from whomever they come and whenever
they are made, and in the end the ledger is the same but for the numbers of the new orders. -/
theorem credits_commute {settings : Settings} {payer : γ} {log : List LogRecord}
    (hl : create settings payer = .ok (l, log)) (before : List (Step γ))
    {calls calls' : List (Stamp × Account × Request)}
    (hcredits : ∀ c ∈ calls, c.2.2.isCredit = true)
    (hperm : (calls.map Prod.snd).Perm (calls'.map Prod.snd))
    (hall : (l.run before).AllAnswered (calls.map Step.ofCall)) :
    (l.run before).AllAnswered (calls'.map Step.ofCall) ∧
      (l.run (before ++ calls.map Step.ofCall)).AlikeButOrder
        (l.run (before ++ calls'.map Step.ofCall)) ∧
      (l.run (before ++ calls.map Step.ofCall)).verify = .ok () ∧
      (l.run (before ++ calls'.map Step.ofCall)).verify = .ok () := by
  have hopened := sound_of_create hl
  have h := hopened.run before
  have hcredits' : ∀ c ∈ calls', c.2.2.isCredit = true := fun c hc => by
    obtain ⟨c', hc', he⟩ := List.mem_map.mp (hperm.mem_iff.mpr (List.mem_map_of_mem hc))
    exact he ▸ hcredits c' hc'
  obtain ⟨hiff, hrun⟩ := run_credits h hcredits
  obtain ⟨hiff', hrun'⟩ := run_credits h hcredits'
  have hall' := hiff'.mpr ((hiff.mp hall).perm hperm)
  have hverify : ∀ steps : List (Step γ), (l.run steps).verify = .ok () := fun steps => by
    have hchronicled : l.books.Chronicled :=
      (create_eq_ok_iff.mp hl).2.1 ▸ .opened settings.owner
    exact (chronicled_run hopened hchronicled steps).verified
  have halike := (hrun hall).alike (hrun' hall') hperm (h.run _) (h.run _)
  rw [← run_append, ← run_append] at halike
  exact ⟨hall', halike, hverify _, hverify _⟩

def harvest (first : Bool) : List (Stamp × Account × Request) :=
  if first then
    [(.ofSeconds 3, ⟨"ann"⟩, .deposit ⟨"ann"⟩ 5),
      (.ofSeconds 4, ⟨"bob"⟩, .placeOrder ⟨⟨"bob"⟩, 1, 7, 7⟩),
      (.ofSeconds 5, ⟨"ann"⟩, .placeOrder ⟨⟨"ann"⟩, 1, 2, 2⟩)]
  else
    [(.ofSeconds 6, ⟨"ann"⟩, .placeOrder ⟨⟨"ann"⟩, 1, 2, 2⟩),
      (.ofSeconds 7, ⟨"ann"⟩, .deposit ⟨"ann"⟩ 5),
      (.ofSeconds 8, ⟨"bob"⟩, .placeOrder ⟨⟨"bob"⟩, 1, 7, 7⟩)]

theorem credits_commute_harvest :
    let before : List (Step RecordingPayer) :=
      [.call (.ofSeconds 0) ⟨"keeper"⟩ (.deposit ⟨"keeper"⟩ 5),
        .call (.ofSeconds 1) ⟨"keeper"⟩ (.withdraw ⟨"ann"⟩ 3)]
    ∃ l log, create { owner := ⟨"keeper"⟩ } ({} : RecordingPayer) = .ok (l, log) ∧
      let one := l.run (before ++ (harvest true).map Step.ofCall)
      let other := l.run (before ++ (harvest false).map Step.ofCall)
      (l.run before).AllAnswered ((harvest true).map Step.ofCall) ∧
      (l.run before).AllAnswered ((harvest false).map Step.ofCall) ∧
      one.AlikeButOrder other ∧ other.balanceOf ⟨"ann"⟩ = 7 ∧
      one.orders = [⟨⟨0⟩, ⟨"bob"⟩, 1, 7, 7⟩, ⟨⟨1⟩, ⟨"ann"⟩, 1, 2, 2⟩] ∧
      other.orders = [⟨⟨0⟩, ⟨"ann"⟩, 1, 2, 2⟩, ⟨⟨1⟩, ⟨"bob"⟩, 1, 7, 7⟩] := by
  intro before
  have hl : create { owner := ⟨"keeper"⟩ } ({} : RecordingPayer) = .ok
      (⟨{ owner := ⟨"keeper"⟩ }, { owner := ⟨"keeper"⟩ }, {}⟩, _) :=
    create_eq_ok_iff.mpr ⟨by decide, rfl, rfl⟩
  have hall : (run ⟨{ owner := ⟨"keeper"⟩ }, { owner := ⟨"keeper"⟩ }, {}⟩ before).AllAnswered
      ((harvest true).map Step.ofCall) := by decide
  have hperm : ((harvest true).map Prod.snd).Perm ((harvest false).map Prod.snd) := by decide
  obtain ⟨hother, halike, -⟩ :=
    credits_commute hl before (by decide) hperm hall
  exact ⟨_, _, hl, hall, hother, halike, by decide, by decide, by decide⟩

end Ledger

end Depository
