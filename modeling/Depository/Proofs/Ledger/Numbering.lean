import Depository.Proofs.Ledger.Shared
import Depository.Proofs.Ledger.Taken

namespace Depository

open Store

namespace EventKind

def order? : EventKind → Option Order
  | orderPlaced id owner price amount value _ => some ⟨id, owner, price, amount, value⟩
  | _ => none

def checkpoint? : EventKind → Option Checkpoint
  | checkpointRecorded id root => some ⟨id, root⟩
  | _ => none

end EventKind

namespace Answered

def placed? (a : Answered) : Option (OrderRequest × Reply) :=
  match a.request with
  | .placeOrder o => some (o, a.reply)
  | _ => none

def recorded? (a : Answered) : Option (Root × Reply) :=
  a.request.root?.map (·, a.reply)

end Answered

def Order.entry (o : Order) : OrderRequest × Reply :=
  (⟨o.owner, o.price, o.amount, o.value⟩, .order o.id)

def Checkpoint.entry (c : Checkpoint) : Root × Reply :=
  (c.root, .checkpoint c.id)

structure Store.Numbered {ρ : Type} (rows : List ρ) (number : ρ → UInt64) (next : UInt64) :
    Prop where
  numbers : rows.map (fun r => (number r).toNat) = List.range rows.length
  next : next.toNat = rows.length

lemma Store.Schema.Serial.numbered {ρ κ : Type} [Ord κ] [Numbering κ] {s : Schema ρ κ}
    {rows : List ρ} {next : UInt64} (h : s.Serial rows next) (value : κ → UInt64)
    (hvalue : ∀ n, value (Numbering.ofSeq n) = n) :
    Numbered rows (fun r => value (s.key r)) next where
  numbers := by
    have hkeys : rows.map (fun r => (value (s.key r)).toNat) =
        (rows.map s.key).map fun k => (value k).toNat := by
      rw [List.map_map]
      rfl
    rw [hkeys, h, List.map_map, h.length]
    refine (List.map_congr_left fun i hi => ?_).trans (List.map_id _)
    rw [Function.comp_apply, hvalue]
    exact UInt64.toNat_ofNat_of_lt' (Nat.lt_trans (List.mem_range.mp hi) next.toNat_lt)
  next := h.length.symm

namespace Ledger

variable {γ : Type}

/-- The rows are what was asked for in the answered requests, in their order, and each request was
answered with the number of its row. -/
structure Entered (l : Ledger γ) (done : List Answered) : Prop where
  placed : done.filterMap Answered.placed? = l.orders.map Order.entry
  recorded : done.filterMap Answered.recorded? = l.checkpoints.map Checkpoint.entry
  orderIds : Numbered l.orders (fun o => o.id.value) l.nextOrderId.value
  checkpointIds : Numbered l.checkpoints (fun c => c.id.value) l.nextCheckpointId.value

structure Grows (l l' : Ledger γ) : Prop where
  orders : l.orders <+: l'.orders
  checkpoints : l.checkpoints <+: l'.checkpoints

/-- A request never fails for want of a free key, and if it fails for want of a free index entry
then before it has allocated or staged anything. -/
def Unclashing [Payer γ] (l : Ledger γ) : Prop :=
  ∀ (stamp : Stamp) (caller : Account) (r : Request) (f : Failure) (s : Session γ),
    (r.attempt l.settings.maxRootBytes caller).run (l.session stamp) = (.error (.failed f), s) →
      (∀ table key, f ≠ .duplicateKey table key) ∧
        ∀ index key, f = .duplicateEntry index key → s.tx = (l.session stamp).tx

end Ledger

namespace Books

variable {b : Books} {settings : Settings} {a : Answered} {kind : EventKind}

lemma Sound.carryOut_orders (h : b.Sound) (hk : b.Warrants kind) :
    (b.carryOut kind).orders.rows = b.orders.rows ++ kind.order?.toList := by
  cases kind with
  | orderPlaced id owner price amount value balance =>
    have hkey : orderSchema.key ⟨id, owner, price, amount, value⟩ =
        Numbering.ofSeq b.orders.nextSeq := hk.2.2.1
    exact Table.enter_rows_next h.orders hkey _
  | debited | withdrawn =>
    rw [Books.carryOut, (b.adjustBalance_frame _ _).1]
    exact (List.append_nil _).symm
  | deposited | checkpointRecorded | ownershipTransferred => exact (List.append_nil _).symm

lemma Sound.carryOut_checkpoints (h : b.Sound) (hk : b.Warrants kind) :
    (b.carryOut kind).checkpoints.rows = b.checkpoints.rows ++ kind.checkpoint?.toList := by
  cases kind with
  | checkpointRecorded id root =>
    have hkey : checkpointSchema.key ⟨id, root⟩ = Numbering.ofSeq b.checkpoints.nextSeq := hk.2.1
    exact Table.enter_rows_next h.checkpoints hkey _
  | debited | withdrawn =>
    rw [Books.carryOut, (b.adjustBalance_frame _ _).2.1]
    exact (List.append_nil _).symm
  | deposited | orderPlaced | ownershipTransferred => exact (List.append_nil _).symm

lemma Answers.placed (h : b.Answers settings a kind) :
    a.placed? = kind.order?.map Order.entry := by
  have hevent := h.event
  rw [Answered.placed?, h.reply]
  cases hr : a.request with
  | recordHex text =>
    rw [hr] at hevent
    obtain ⟨root, -, rfl⟩ := Option.map_eq_some_iff.mp hevent
    rfl
  | deposit | debit | placeOrder | recordRoot | withdraw | transferOwnership =>
    obtain rfl := Option.some.inj (hr ▸ hevent)
    rfl

lemma Answers.recorded (h : b.Answers settings a kind) :
    a.recorded? = kind.checkpoint?.map Checkpoint.entry := by
  have hevent := h.event
  rw [Answered.recorded?, h.reply]
  cases hr : a.request with
  | recordHex text =>
    rw [hr] at hevent
    obtain ⟨root, hx, rfl⟩ := Option.map_eq_some_iff.mp hevent
    rw [Request.root?, hx]
    rfl
  | deposit | debit | placeOrder | recordRoot | withdraw | transferOwnership =>
    obtain rfl := Option.some.inj (hr ▸ hevent)
    rfl

structure Enters (b : Books) (done : List Answered) : Prop where
  placed : done.filterMap Answered.placed? = b.orders.rows.map Order.entry
  recorded : done.filterMap Answered.recorded? = b.checkpoints.rows.map Checkpoint.entry

lemma Enters.opened (owner : Account) : Enters { owner := owner } [] := ⟨rfl, rfl⟩

lemma Enters.answer {done : List Answered} (hb : b.Sound) (h : b.Enters done)
    (ha : b.Answers settings a kind) (stamp : Stamp) :
    (b.enact settings.eventLog stamp kind).Enters (done ++ [a]) where
  placed := by
    have hnew : [a].filterMap Answered.placed? = (kind.order?.map Order.entry).toList :=
      congrArg Option.toList ha.placed
    rw [List.filterMap_append, h.placed, hnew, enact_orders, hb.carryOut_orders ha.warrants,
      List.map_append, Option.toList_map]
  recorded := by
    have hnew : [a].filterMap Answered.recorded? = (kind.checkpoint?.map Checkpoint.entry).toList :=
      congrArg Option.toList ha.recorded
    rw [List.filterMap_append, h.recorded, hnew, enact_checkpoints,
      hb.carryOut_checkpoints ha.warrants, List.map_append, Option.toList_map]

end Books

namespace Ledger

variable {γ : Type} {l k m : Ledger γ}

lemma Grows.refl (l : Ledger γ) : l.Grows l := ⟨List.prefix_rfl, List.prefix_rfl⟩

lemma Grows.trans (h : l.Grows k) (h' : k.Grows m) : l.Grows m :=
  ⟨h.orders.trans h'.orders, h.checkpoints.trans h'.checkpoints⟩

lemma entered_of_enters {done : List Answered} (h : l.books.Sound) (hd : l.books.Enters done) :
    l.Entered done where
  placed := hd.placed
  recorded := hd.recorded
  orderIds := h.orders.numbered OrderId.value fun _ => rfl
  checkpointIds := h.checkpoints.numbered CheckpointId.value fun _ => rfl

variable [Payer γ]

lemma enters_run (h : l.books.Sound) (hd : l.books.Enters []) (steps : List (Step γ)) :
    (l.run steps).books.Enters (l.answered steps) :=
  answered_invariant (P := Books.Enters) h hd (fun _ _ _ stamp _ hs hP ha => hP.answer hs ha stamp)
    steps

lemma grows_step (h : l.books.Sound) (s : Step γ) : l.Grows (l.step s) := by
  rcases step_cases h s with ⟨-, hb | ⟨stamp, kind, hw, -, hb⟩⟩
  · have horders : (l.step s).orders = l.orders := congrArg (fun b => b.orders.rows) hb
    have hcheckpoints : (l.step s).checkpoints = l.checkpoints :=
      congrArg (fun b => b.checkpoints.rows) hb
    exact ⟨horders ▸ List.prefix_rfl, hcheckpoints ▸ List.prefix_rfl⟩
  · constructor
    · rw [orders, orders, hb, Books.enact_orders, h.carryOut_orders hw]
      exact List.prefix_append _ _
    · rw [checkpoints, checkpoints, hb, Books.enact_checkpoints, h.carryOut_checkpoints hw]
      exact List.prefix_append _ _

lemma grows_run (h : l.books.Sound) (steps : List (Step γ)) : l.Grows (l.run steps) := by
  have hrun := run_invariant (P := fun k => k.books.Sound ∧ l.Grows k) ⟨h, .refl l⟩ steps
    fun s _ k hk => ⟨hk.1.step s, hk.2.trans (grows_step hk.1 s)⟩
  exact hrun.2

lemma unclashing (h : l.books.Sound) : l.Unclashing := by
  intro stamp caller r f s hrun
  have ho : (l.perform stamp caller r).outcome = .error (.failed f) := by
    rw [perform, hrun]
  -- Both failures are of the class that only a root on record leads to.
  refine ⟨fun table key hkey => ?_, fun index key hentry => ?_⟩
  · obtain ⟨-, root, -, -, -, -, hf⟩ := taken_of_failed h ho (hkey ▸ rfl)
    cases hkey.symm.trans hf
  · obtain ⟨hc, root, existing, hroot, hv, hfind, -⟩ := taken_of_failed h ho (hentry ▸ rfl)
    have htaken := runIn_attempt_taken h stamp hc hroot hv hfind
    exact congrArg (fun x => x.2.tx) (hrun.symm.trans htaken)

lemma numbering_run (h : l.books.Sound) (hd : l.books.Enters []) (steps later : List (Step γ)) :
    (l.run steps).Entered (l.answered steps) ∧ (l.run steps).Unclashing ∧
      (l.run steps).Grows (l.run (steps ++ later)) := by
  refine ⟨entered_of_enters (h.run steps) (enters_run h hd steps), unclashing (h.run steps), ?_⟩
  rw [run_append]
  exact grows_run (h.run steps) later

/-- Whatever has happened to a ledger, its orders and checkpoints are those that were asked for and
answered, numbered from zero in that order, and stay so for good; no number that was allocated is
found to be taken. It is so whichever clients share the ledger and in whichever order their calls
get the lock. -/
theorem rows_dense_and_kept {settings : Settings} {payer : γ} {log : List LogRecord}
    (hl : create settings payer = .ok (l, log)) :
    (∀ steps later : List (Step γ), (l.run steps).Entered (l.answered steps) ∧
      (l.run steps).Unclashing ∧ (l.run steps).Grows (l.run (steps ++ later))) ∧
    ∀ {ι : Type} [DecidableEq ι] (programs : ι → List (Step γ)) (turns later : List ι),
      let shared : SharedLedger γ := ⟨l, false⟩
      (shared.run (interleave programs turns)).ledger.Entered
          (shared.answered (interleave programs turns)) ∧
        (shared.run (interleave programs turns)).ledger.Unclashing ∧
        (shared.run (interleave programs turns)).ledger.Grows
          (shared.run (interleave programs (turns ++ later))).ledger := by
  have hopened : l.books.Sound ∧ l.books.Enters [] := by
    rw [(create_eq_ok_iff.mp hl).2.1]
    exact ⟨.opened settings.owner, .opened settings.owner⟩
  refine ⟨numbering_run hopened.1 hopened.2, fun programs turns later => ?_⟩
  obtain ⟨steps, rest, hledger, hanswered, hlater⟩ :=
    SharedLedger.exists_steps_interleave ⟨l, false⟩ programs turns later
  dsimp only
  rw [hledger, hanswered, hlater]
  exact numbering_run hopened.1 hopened.2 steps rest

def filings : Bool → List (Step RecordingPayer)
  | true => [.call (.ofSeconds 0) ⟨"keeper"⟩ (.placeOrder ⟨⟨"keeper"⟩, 2, 3, 6⟩),
    .call (.ofSeconds 1) ⟨"keeper"⟩ (.recordRoot ⟨[171]⟩),
    .call (.ofSeconds 2) ⟨"keeper"⟩ (.recordRoot ⟨[171]⟩)]
  | false => [.call (.ofSeconds 3) ⟨"ann"⟩ (.placeOrder ⟨⟨"keeper"⟩, 1, 1, 1⟩),
    .call (.ofSeconds 4) ⟨"ann"⟩ (.placeOrder ⟨⟨"ann"⟩, 1, 4, 4⟩)]

theorem rows_dense_and_kept_filings :
    ∃ l log, create { owner := ⟨"keeper"⟩ } ({} : RecordingPayer) = .ok (l, log) ∧
      (l.run (filings true)).Entered (l.answered (filings true)) ∧
      (l.run (filings true)).Unclashing ∧
      (l.run (filings true)).Grows (l.run (filings true ++ filings false)) ∧
      (l.run (filings true ++ filings false)).orders =
        [⟨⟨0⟩, ⟨"keeper"⟩, 2, 3, 6⟩, ⟨⟨1⟩, ⟨"ann"⟩, 1, 4, 4⟩] ∧
      ((⟨l, false⟩ : SharedLedger _).run (interleave filings [false, false, true, true])).ledger.Grows
        ((⟨l, false⟩ : SharedLedger _).run
          (interleave filings ([false, false, true, true] ++ [true]))).ledger ∧
      ((⟨l, false⟩ : SharedLedger _).run
          (interleave filings ([false, false, true, true] ++ [true]))).ledger.orders =
        [⟨⟨0⟩, ⟨"ann"⟩, 1, 4, 4⟩, ⟨⟨1⟩, ⟨"keeper"⟩, 2, 3, 6⟩] ∧
      ((⟨l, false⟩ : SharedLedger _).run
          (interleave filings ([false, false, true, true] ++ [true]))).ledger.checkpoints =
        [⟨⟨0⟩, ⟨[171]⟩⟩] := by
  have hl : create { owner := ⟨"keeper"⟩ } ({} : RecordingPayer) = .ok
      (⟨{ owner := ⟨"keeper"⟩ }, { owner := ⟨"keeper"⟩ }, {}⟩, _) :=
    create_eq_ok_iff.mpr ⟨by decide, rfl, rfl⟩
  obtain ⟨halone, hshared⟩ := rows_dense_and_kept hl
  obtain ⟨hentered, hunclashing, hgrows⟩ := halone (filings true) (filings false)
  exact ⟨_, _, hl, hentered, hunclashing, hgrows, by decide,
    (hshared filings [false, false, true, true] [true]).2.2, by decide, by decide⟩

end Ledger

end Depository
