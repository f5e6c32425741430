import Depository.Proofs.Ledger.Plain

namespace Depository

open Store

def Order.request (o : Order) : OrderRequest :=
  ⟨o.owner, o.price, o.amount, o.value⟩

namespace Books

structure Roomy (b : Books) : Prop where
  orders : HasNext b.orders.nextSeq
  checkpoints : HasNext b.checkpoints.nextSeq
  events : HasNext b.events.nextSeq

lemma Roomy.ruling {b : Books} (h : b.Roomy) (settings : Settings) (caller : Account)
    (r : Request) :
    b.ruling settings caller r =
      if caller ≠ r.principal b.owner then
        .error (.unauthorized r.operation caller (r.principal b.owner))
      else b.judge settings.maxRootBytes r := by
  have hroom : ∀ x, b.withRoom settings.eventLog x = x := by
    rintro (f | kind)
    · rfl
    · exact if_neg fun hn => hn.2 h.events
  rw [Books.ruling, hroom]

lemma Roomy.of_enact {b : Books} {audited : Bool} {stamp : Stamp} {kind : EventKind}
    (hw : b.Warrants kind) (hn : audited = true → HasNext b.events.nextSeq)
    (h : (b.enact audited stamp kind).Roomy) : b.Roomy := by
  have hcarry : (b.carryOut kind).orders.nextSeq = (b.enact audited stamp kind).orders.nextSeq ∧
      (b.carryOut kind).checkpoints.nextSeq =
        (b.enact audited stamp kind).checkpoints.nextSeq := by
    cases audited <;> exact ⟨rfl, rfl⟩
  have horders := h.orders
  have hcheckpoints := h.checkpoints
  rw [← hcarry.1] at horders
  rw [← hcarry.2] at hcheckpoints
  have hevents : HasNext b.events.nextSeq := by
    cases audited with
    | true => exact hn rfl
    | false => simpa [enact] using h.events
  cases kind with
  | orderPlaced => exact ⟨hw.2.2.2, hcheckpoints, hevents⟩
  | checkpointRecorded => exact ⟨horders, hw.2.2, hevents⟩
  | deposited | ownershipTransferred => exact ⟨horders, hcheckpoints, hevents⟩
  | debited | withdrawn =>
    simp only [carryOut, adjustBalance] at horders hcheckpoints
    exact ⟨by split at horders <;> exact horders, by split at hcheckpoints <;> exact hcheckpoints,
      hevents⟩

end Books

namespace Ledger

variable {l : Ledger RecordingPayer}

def plain (l : Ledger RecordingPayer) : Plain where
  owner := l.books.owner
  balance := l.books.balanceOf
  orders := l.books.orders.rows.map Order.request
  roots := l.books.checkpoints.rows.map Checkpoint.root
  accepted := l.payer.accepted
  blocked := l.payer.blocked
  refusal := l.payer.refusal

lemma nextOrder_eq (h : l.books.Sound) :
    l.books.orders.nextSeq = l.plain.orders.length.toUInt64 := by
  simp [plain, h.orders.length]

lemma nextCheckpoint_eq (h : l.books.Sound) :
    l.books.checkpoints.nextSeq = l.plain.roots.length.toUInt64 := by
  simp [plain, h.checkpoints.length]

lemma orders_eq (h : l.books.Sound) :
    l.orders = l.plain.orders.mapIdx fun i o => o.toOrder ⟨i.toUInt64⟩ := by
  refine List.ext_getElem (by simp [orders, plain]) fun i hi _ => ?_
  have hid : l.orders[i].id = ⟨i.toUInt64⟩ := h.orders.key_getElem i hi
  simp only [plain, List.getElem_mapIdx, List.getElem_map, ← hid]
  rfl

lemma checkpoints_eq (h : l.books.Sound) :
    l.checkpoints = l.plain.roots.mapIdx fun i root => ⟨⟨i.toUInt64⟩, root⟩ := by
  refine List.ext_getElem (by simp [checkpoints, plain]) fun i hi _ => ?_
  have hid : l.checkpoints[i].id = ⟨i.toUInt64⟩ := h.checkpoints.key_getElem i hi
  simp only [plain, List.getElem_mapIdx, List.getElem_map, ← hid]
  rfl

lemma findCheckpoint_eq (h : l.books.Sound) (root : Root) :
    l.findCheckpoint root =
      (l.plain.roots.idxOf? root).map fun i => ⟨⟨i.toUInt64⟩, root⟩ := by
  cases hi : l.plain.roots.idxOf? root with
  | none =>
    refine h.findCheckpoint_eq_none_iff.mpr fun c hc hr => ?_
    exact List.idxOf?_eq_none_iff.mp hi (List.mem_map.mpr ⟨c, hc, hr⟩)
  | some i =>
    obtain ⟨hlt, hroot, -⟩ := List.idxOf?_eq_some_iff.mp hi
    have hlen : i < l.books.checkpoints.rows.length := by simpa [plain] using hlt
    have hid : l.books.checkpoints.rows[i].id = ⟨i.toUInt64⟩ := h.checkpoints.key_getElem i hlen
    have hr : l.books.checkpoints.rows[i].root = root := by simpa [plain] using hroot
    have hc : l.books.checkpoints.rows[i] = ⟨⟨i.toUInt64⟩, root⟩ := by rw [← hid, ← hr]
    rw [Option.map_some, ← hc]
    exact h.findCheckpoint_eq_some_iff.mpr ⟨List.getElem_mem hlen, hr⟩

lemma view_eq (h : l.books.Sound) : l.view = l.plain.view := by
  have hfind : l.findCheckpoint = _ := funext (findCheckpoint_eq h)
  simp only [view, Plain.view, ← orders_eq h, ← checkpoints_eq h, ← hfind, nextOrderId,
    nextCheckpointId, nextOrder_eq h, nextCheckpoint_eq h]
  rfl

variable (stamp : Stamp)

lemma plain_enact (kind : EventKind) (p : RecordingPayer) :
    plain { l with books := l.books.enact l.settings.eventLog stamp kind, payer := p } =
      plain { l with books := l.books.carryOut kind, payer := p } := by
  rw [Books.enact]
  split <;> rfl

lemma plain_ok {kind : EventKind} (hk : kind.payout? = none) :
    (l.follow stamp (.ok kind)).map id plain =
      (.ok kind.reply, plain { l with books := l.books.carryOut kind }) := by
  simp only [follow, settle, hk, Prod.map, id_eq]
  rw [← plain_enact stamp kind l.payer]

lemma plain_if {c : Prop} [Decidable c] (f : Failure) (ruling : Except Failure EventKind) :
    (l.follow stamp (if c then .error f else ruling)).map id plain =
      if c then l.plain.refuse f else (l.follow stamp ruling).map id plain := by
  split <;> rfl

lemma plain_setBalance (b : Books) (account : Account) (amount : UInt64) :
    plain { l with books := b.setBalance account amount } =
      (plain { l with books := b }).setBalance account amount := by
  simp only [plain, Plain.setBalance, Books.balanceOf_setBalance]
  rfl

lemma plain_adjustBalance {account : Account} {amount : UInt64}
    (h : amount ≤ l.books.balanceOf account) :
    plain { l with
      books := l.books.adjustBalance account (l.books.balanceOf account - amount) } =
        l.plain.setBalance account (l.books.balanceOf account - amount) := by
  have hbalance := Books.balanceOf_adjustBalance h
  simp only [plain, Plain.setBalance, hbalance]
  simp only [Books.adjustBalance]
  split <;> rfl

lemma plain_addOrder (h : l.books.Sound) (o : OrderRequest) (balance : UInt64) :
    plain { l with
      books := l.books.carryOut (.orderPlaced ⟨l.books.orders.nextSeq⟩ o.owner o.price o.amount
        o.value balance) } =
      { l.plain.setBalance o.owner balance with orders := l.plain.orders ++ [o] } := by
  have horders : (l.books.orders.enter (o.toOrder ⟨l.books.orders.nextSeq⟩)
      (l.books.orders.nextSeq + 1)).rows.map Order.request = l.plain.orders ++ [o] := by
    rw [Table.enter_rows_next h.orders rfl, List.map_append]
    rfl
  have hbalance := l.books.balanceOf_setBalance o.owner balance
  rw [← horders, Plain.setBalance]
  simp only [plain, ← hbalance]
  rfl

lemma plain_addCheckpoint (h : l.books.Sound) (root : Root) :
    plain { l with
      books := l.books.carryOut (.checkpointRecorded ⟨l.books.checkpoints.nextSeq⟩ root) } =
      { l.plain with roots := l.plain.roots ++ [root] } := by
  have hroots : (l.books.checkpoints.enter ⟨⟨l.books.checkpoints.nextSeq⟩, root⟩
      (l.books.checkpoints.nextSeq + 1)).rows.map Checkpoint.root =
        l.plain.roots ++ [root] := by
    rw [Table.enter_rows_next h.checkpoints rfl, List.map_append]
    rfl
  rw [← hroots]
  rfl

lemma isSome_findCheckpoint (h : l.books.Sound) (root : Root) :
    (l.books.findCheckpoint root).isSome ↔ root ∈ l.plain.roots := by
  have hnone : l.books.findCheckpoint root = none ↔ _ := h.findCheckpoint_eq_none_iff
  rw [← not_iff_not, Option.not_isSome_iff_eq_none, hnone, plain, List.mem_map]
  exact ⟨fun hn ⟨c, hc, hr⟩ => hn c hc hr, fun hn c hc hr => hn ⟨c, hc, hr⟩⟩

section Requests

variable {caller : Account} (hroom : l.books.Roomy)

include hroom

lemma plain_deposit (account : Account) (amount : UInt64) :
    (l.follow stamp (l.books.ruling l.settings caller (.deposit account amount))).map id plain =
      l.plain.deposit caller account amount := by
  have hok : (l.follow stamp (.ok (.deposited account amount
      (l.books.balanceOf account + amount)))).map id plain = _ := plain_ok stamp rfl
  rw [Books.carryOut, plain_setBalance] at hok
  rw [hroom.ruling, plain_if, Books.judge, plain_if, plain_if, hok]
  rfl

lemma plain_debit (account : Account) (amount : UInt64) :
    (l.follow stamp (l.books.ruling l.settings caller (.debit account amount))).map id plain =
      l.plain.debit caller account amount := by
  rw [hroom.ruling, plain_if, Books.judge, plain_if]
  by_cases hlt : l.books.balanceOf account < amount
  · rw [Plain.debit, if_pos hlt]
    have hlt' : l.plain.balance account < amount := hlt
    rw [if_pos hlt']
    rfl
  · have hlt' : ¬ l.plain.balance account < amount := hlt
    rw [Plain.debit, if_neg hlt, if_neg hlt', plain_ok stamp rfl, Books.carryOut,
      plain_adjustBalance (UInt64.not_lt.mp hlt)]
    rfl

lemma plain_placeOrder (h : l.books.Sound) (o : OrderRequest) :
    (l.follow stamp (l.books.ruling l.settings caller (.placeOrder o))).map id plain =
      l.plain.placeOrder caller o := by
  rw [hroom.ruling, plain_if, Books.judge, plain_if, plain_if, plain_ok stamp rfl,
    if_neg (not_not_intro hroom.orders), plain_addOrder h, nextOrder_eq h]
  rfl

lemma plain_judgeRoot (h : l.books.Sound) (maxRootBytes : UInt64) (root : Root) :
    (l.follow stamp (l.books.judgeRoot maxRootBytes root)).map id plain =
      if root.size = 0 then l.plain.refuse (.malformed "checkpoint root is empty")
      else if maxRootBytes.toNat < root.size then
        l.plain.refuse
          (.malformed s!"checkpoint root is {root.size} bytes, limit is {maxRootBytes}")
      else if root ∈ l.plain.roots then
        l.plain.refuse (.duplicateEntry "checkpoint.root" root.toHex)
      else (.ok (.checkpoint ⟨l.plain.roots.length.toUInt64⟩),
        { l.plain with roots := l.plain.roots ++ [root] }) := by
  rw [Books.judgeRoot, plain_if, plain_if, plain_if, plain_if, plain_ok stamp rfl,
    if_neg (not_not_intro hroom.checkpoints), plain_addCheckpoint h, nextCheckpoint_eq h]
  simp only [isSome_findCheckpoint h]
  rfl

lemma plain_record (h : l.books.Sound) {r : Request} (root : Except Failure Root)
    (hr : r.principal l.books.owner = l.books.owner) (ho : r.operation = .recordCheckpoint)
    (hj : ∀ maxRootBytes, l.books.judge maxRootBytes r = match root with
      | .ok root => l.books.judgeRoot maxRootBytes root
      | .error f => .error f) :
    (l.follow stamp (l.books.ruling l.settings caller r)).map id plain =
      l.plain.record l.settings.maxRootBytes caller root := by
  rw [hroom.ruling, plain_if, hr, ho, hj]
  cases root with
  | error f => rfl
  | ok root =>
    dsimp only
    rw [plain_judgeRoot stamp hroom h]
    rfl

lemma plain_withdraw (hcalm : l.payer.breaksNext = false) (receiver : Account)
    (amount : UInt64) :
    (l.follow stamp (l.books.ruling l.settings caller (.withdraw receiver amount))).map id plain =
      l.plain.withdraw caller receiver amount := by
  rw [hroom.ruling, plain_if, Books.judge, plain_if]
  by_cases hlt : l.books.balanceOf l.books.owner < amount
  · have hlt' : l.plain.balance l.plain.owner < amount := hlt
    rw [Plain.withdraw, if_pos hlt, if_pos hlt']
    rfl
  · have hlt' : ¬ l.plain.balance l.plain.owner < amount := hlt
    have hstate := plain_adjustBalance (l := l) (UInt64.not_lt.mp hlt)
    rw [Plain.withdraw, if_neg hlt, if_neg hlt']
    congr 1
    have hrefusal : l.plain.refusal = l.payer.refusal := rfl
    have hblocked : l.plain.blocked = l.payer.blocked := rfl
    simp only [follow, settle, EventKind.payout?, hrefusal, hblocked]
    cases href : l.payer.refusal with
    | some reason =>
      have hpay : Payer.pay l.payer ⟨receiver, amount⟩ = (.rejected reason, l.payer) := by
        simp [Payer.pay, RecordingPayer.pay, hcalm, href]
      rw [hpay]
      rfl
    | none =>
      by_cases hb : receiver ∈ l.payer.blocked
      · have hpay : Payer.pay l.payer ⟨receiver, amount⟩ =
            (.rejected s!"receiver {receiver.name} is blocked", l.payer) := by
          simp [Payer.pay, RecordingPayer.pay, hcalm, href, hb]
        rw [hpay]
        simp only [hb, if_true]
        rfl
      · have hpay : Payer.pay l.payer ⟨receiver, amount⟩ =
            (.accepted, { l.payer with accepted := l.payer.accepted ++ [⟨receiver, amount⟩] }) := by
          simp [Payer.pay, RecordingPayer.pay, hcalm, href, hb]
        rw [hpay]
        simp only [hb, if_false, Prod.map, id_eq]
        rw [plain_enact stamp]
        exact congrArg (fun m : Plain => (Except.ok (ε := Abort) Reply.done,
          { m with accepted := m.accepted ++ [Instruction.mk receiver amount] })) hstate

lemma plain_transferOwnership (new : Account) :
    (l.follow stamp (l.books.ruling l.settings caller (.transferOwnership new))).map id plain =
      l.plain.transferOwnership caller new := by
  rw [hroom.ruling, plain_if, Books.judge, plain_if, plain_ok stamp rfl]
  rfl

end Requests

lemma plain_perform (h : l.books.Sound) (hroom : l.books.Roomy)
    (hcalm : l.payer.breaksNext = false) (caller : Account) (r : Request) :
    ((l.perform stamp caller r).outcome, (l.perform stamp caller r).ledger.plain) =
      l.plain.perform l.settings.maxRootBytes caller r := by
  have hperform := congrArg (Prod.map id plain) (perform_eq h stamp caller r)
  refine hperform.trans ?_
  cases r with
  | deposit account amount => exact plain_deposit stamp hroom account amount
  | debit account amount => exact plain_debit stamp hroom account amount
  | placeOrder o => exact plain_placeOrder stamp hroom h o
  | recordRoot root =>
    exact plain_record stamp hroom h (.ok root) rfl rfl fun _ => rfl
  | recordHex text =>
    exact plain_record stamp hroom h (Root.ofHex text) rfl rfl fun _ => rfl
  | withdraw receiver amount => exact plain_withdraw stamp hroom hcalm receiver amount
  | transferOwnership new => exact plain_transferOwnership stamp hroom new

lemma calm_step (h : l.books.Sound) (hcalm : l.payer.breaksNext = false) {t : Turn}
    (ht : t ≠ .breakNext) : (l.step t.step).payer.breaksNext = false := by
  have hpay : ∀ i, (Payer.pay l.payer i).2.breaksNext = false := by
    intro i
    simp only [Payer.pay, RecordingPayer.pay, hcalm, Bool.false_eq_true, if_false]
    split
    · exact hcalm
    · split
      · exact hcalm
      · rfl
  cases t with
  | block | rejectAll => exact hcalm
  | breakNext => exact absurd rfl ht
  | call stamp caller r =>
    rcases perform_cases h stamp caller r with
      ⟨e, p, -, hl, hp⟩ | ⟨kind, p, -, -, hl, hp⟩
    · rw [Turn.step, step, hl]
      rcases hp with rfl | ⟨i, -, rfl⟩
      · exact hcalm
      · exact hpay i
    · rw [Turn.step, step, hl]
      cases hk : kind.payout? with
      | none =>
        simp only [Payer.Settles, hk] at hp
        rw [hp]
        exact hcalm
      | some i =>
        simp only [Payer.Settles, hk] at hp
        have hsnd := hpay i
        rw [hp] at hsnd
        exact hsnd

lemma plain_step (h : l.books.Sound) (hroom : l.books.Roomy)
    (hcalm : l.payer.breaksNext = false) {t : Turn} (ht : t ≠ .breakNext) :
    (l.answer t.step, (l.step t.step).plain) = l.plain.play l.settings.maxRootBytes t := by
  cases t with
  | call stamp caller r =>
    have hperform := plain_perform stamp h hroom hcalm caller r
    rw [Plain.play, ← hperform]
    rfl
  | block | rejectAll => rfl
  | breakNext => exact absurd rfl ht

lemma roomy_of_step {γ : Type} [Payer γ] {l : Ledger γ} (h : l.books.Sound) {s : Step γ}
    (hroom : (l.step s).books.Roomy) : l.books.Roomy := by
  rcases step_cases h s with ⟨-, hb | ⟨stamp, kind, hw, hn, hb⟩⟩
  · exact hb ▸ hroom
  · exact Books.Roomy.of_enact hw hn (hb ▸ hroom)

lemma roomy_of_run {γ : Type} [Payer γ] {l : Ledger γ} (h : l.books.Sound) {steps : List (Step γ)}
    (hroom : (l.run steps).books.Roomy) : l.books.Roomy := by
  induction steps generalizing l with
  | nil => exact hroom
  | cons s steps ih => exact roomy_of_step h (ih (h.step s) hroom)

lemma trace_eq (h : l.books.Sound) (hcalm : l.payer.breaksNext = false) {turns : List Turn}
    (ht : .breakNext ∉ turns) (hroom : (l.run (turns.map Turn.step)).books.Roomy) :
    l.trace turns = l.plain.trace l.settings.maxRootBytes turns := by
  induction turns generalizing l with
  | nil => rfl
  | cons t turns ih =>
    obtain ⟨hne, hnot⟩ := not_or.mp (mt List.mem_cons.mpr ht)
    have hsound := h.step t.step
    -- Tables never shrink, so room at the end is room at every step.
    have hstep := plain_step h (roomy_of_run h hroom) hcalm (Ne.symm hne)
    have hrest := ih hsound (calm_step h hcalm (Ne.symm hne)) hnot hroom
    rw [step_settings h] at hrest
    rw [trace, Plain.trace, ← hstep, view_eq hsound, hrest]

/-- Each of the tables that number their rows has given out fewer than all numbers. -/
def HasRoom {γ : Type} (l : Ledger γ) : Prop :=
  l.orders.length < 2 ^ 64 - 1 ∧ l.checkpoints.length < 2 ^ 64 - 1 ∧ l.events.length < 2 ^ 64 - 1

instance {γ : Type} (l : Ledger γ) : Decidable l.HasRoom :=
  inferInstanceAs (Decidable (_ ∧ _))

lemma HasRoom.roomy {γ : Type} {l : Ledger γ} (h : l.books.Sound) (hroom : l.HasRoom) :
    l.books.Roomy := by
  obtain ⟨ho, hc, he⟩ := hroom
  rw [orders, h.orders.length] at ho
  rw [checkpoints, h.checkpoints.length] at hc
  rw [events, h.events.length] at he
  exact ⟨Nat.add_lt_of_lt_sub ho, Nat.add_lt_of_lt_sub hc, Nat.add_lt_of_lt_sub he⟩

/-- A ledger whose settings hold is created, and from then on it answers like the plain machine
and shows what the plain machine shows. -/
theorem create_answers_as_plain (settings : Settings) (hv : settings.validate = .ok ()) :
    ∃ l log, create settings ({} : RecordingPayer) = .ok (l, log) ∧
      l.view = ({ owner := settings.owner } : Plain).view ∧
      ∀ turns, .breakNext ∉ turns → (l.run (turns.map Turn.step)).HasRoom →
        l.trace turns = ({ owner := settings.owner } : Plain).trace settings.maxRootBytes turns := by
  obtain ⟨l, hl⟩ : ∃ l : Ledger RecordingPayer, l = ⟨{ owner := settings.owner }, settings, {}⟩ :=
    ⟨_, rfl⟩
  have hsound : l.books.Sound := hl ▸ Books.Sound.opened settings.owner
  have hplain : l.plain = { owner := settings.owner } := by
    rw [hl]
    rfl
  have hsettings : l.settings = settings := by rw [hl]
  refine ⟨l, _, create_eq_ok_iff.mpr ⟨hv, hl, rfl⟩, ?_, fun turns ht hroom => ?_⟩
  · rw [view_eq hsound, hplain]
  · have hcalm : l.payer.breaksNext = false := by rw [hl]
    have htrace := trace_eq hsound hcalm ht (hroom.roomy (hsound.run _))
    rw [htrace, hplain, hsettings]

def blockedPayout : List Turn :=
  [.call (.ofSeconds 0) ⟨"ann"⟩ (.deposit ⟨"ann"⟩ 5), .block ⟨"bob"⟩,
    .call (.ofSeconds 1) ⟨"keeper"⟩ (.withdraw ⟨"bob"⟩ 0)]

theorem create_answers_as_plain_blocked :
    ∃ l log, create { owner := ⟨"keeper"⟩ } ({} : RecordingPayer) = .ok (l, log) ∧
      (l.run (blockedPayout.map Turn.step)).HasRoom ∧
      l.trace blockedPayout = ({ owner := ⟨"keeper"⟩ } : Plain).trace 128 blockedPayout := by
  obtain ⟨l, log, hl, -, htrace⟩ := create_answers_as_plain { owner := ⟨"keeper"⟩ } (by decide)
  have hroom : (l.run (blockedPayout.map Turn.step)).HasRoom := by
    rw [(create_eq_ok_iff.mp hl).2.1]
    decide
  exact ⟨l, log, hl, hroom, htrace blockedPayout (by simp [blockedPayout]) hroom⟩

end Ledger

end Depository
