import Depository.Proofs.Pending
import Depository.Proofs.Store.Adding
import Mathlib.Tactic.MkIffOfInductiveProp

namespace Depository

open Store

def Books.RootsDiffer (b : Books) : Prop :=
  (b.checkpoints.rows.map Checkpoint.root).Nodup

/-- No sequence goes back, no order or checkpoint gives way to another, and no root is there
twice. -/
@[mk_iff]
structure Books.SafeStep (b b' : Books) : Prop where
  nextDeposit : b.deposits.nextSeq ≤ b'.deposits.nextSeq
  nextOrder : b.orders.nextSeq ≤ b'.orders.nextSeq
  nextCheckpoint : b.checkpoints.nextSeq ≤ b'.checkpoints.nextSeq
  nextEvent : b.events.nextSeq ≤ b'.events.nextSeq
  orders : ∀ o ∈ b.orders.rows, o ∈ b'.orders.rows
  checkpoints : ∀ c ∈ b.checkpoints.rows, c ∈ b'.checkpoints.rows
  roots : b'.RootsDiffer

/-- The books have not moved past the changes, and hold none of the ids and roots that these bring,
other than in the same rows. -/
@[mk_iff]
structure Changes.Fits (c : Changes) (b : Books) : Prop where
  nextOrder : b.orders.nextSeq ≤ c.orders.nextSeq
  nextCheckpoint : b.checkpoints.nextSeq ≤ c.checkpoints.nextSeq
  nextEvent : b.events.nextSeq ≤ c.events.nextSeq
  orderIds : ∀ o ∈ c.orders.rows, ∀ x ∈ b.orders.rows, x.id = o.id → x = o
  checkpointIds : ∀ x ∈ c.checkpoints.rows, ∀ y ∈ b.checkpoints.rows, y.id = x.id → y = x
  roots : ∀ x ∈ c.checkpoints.rows, ∀ y ∈ b.checkpoints.rows, y.root = x.root → y = x

instance (b : Books) : Decidable b.RootsDiffer :=
  inferInstanceAs (Decidable (List.Nodup _))

instance (b b' : Books) : Decidable (b.SafeStep b') :=
  decidable_of_iff' _ (Books.safeStep_iff b b')

instance (c : Changes) (b : Books) : Decidable (c.Fits b) :=
  decidable_of_iff' _ (Changes.fits_iff c b)

section Application

structure Books.Tidy (b : Books) : Prop where
  deposits : b.deposits.nextSeq = 0
  orders : orderSchema.Ascending b.orders.rows
  checkpoints : checkpointSchema.Ascending b.checkpoints.rows

structure Changes.Tidy (c : Changes) : Prop where
  deposits : c.deposits.nextSeq = 0
  orders : orderSchema.Ascending c.orders.rows
  checkpoints : c.checkpoints.Distinct rootIndex

variable {b : Books} {c : Changes}

lemma Books.Tidy.apply (hb : b.Tidy) (hc : c.Tidy) : (b.apply c).Tidy :=
  ⟨hc.deposits, hb.orders.foldl_put, hb.checkpoints.foldl_put⟩

lemma Changes.Tidy.eq_of_root_eq (hc : c.Tidy) : ∀ x ∈ c.checkpoints.rows,
    ∀ y ∈ c.checkpoints.rows, x.root = y.root → x = y := by
  intro x hx y hy hroot
  have hk := hc.checkpoints.distinct x hx y hy (congrArg Root.bytes hroot)
  exact hc.checkpoints.ascending.eq_of_key_eq hx hy hk

lemma Books.Tidy.safeStep_apply_iff (hb : b.Tidy) (hc : c.Tidy) :
    b.SafeStep (b.apply c) ↔ b.RootsDiffer ∧ c.Fits b := by
  have hordersKept := Table.keeps_rows_iff hb.orders hc.orders
  have hcheckpointsKept := Table.keeps_rows_iff hb.checkpoints hc.checkpoints.ascending
  have hroots := Table.nodup_map_apply_iff hb.checkpoints hc.checkpoints.ascending Checkpoint.root
  constructor
  · intro h
    obtain ⟨hdiffer, hacross⟩ := (hroots h.checkpoints hc.eq_of_root_eq).mp h.roots
    exact ⟨hdiffer, h.nextOrder, h.nextCheckpoint, h.nextEvent, hordersKept.mp h.orders,
      hcheckpointsKept.mp h.checkpoints, hacross⟩
  · rintro ⟨hdiffer, h⟩
    have hkept := hcheckpointsKept.mpr h.checkpointIds
    exact
      { nextDeposit := hb.deposits ▸ UInt64.zero_le
        nextOrder := h.nextOrder
        nextCheckpoint := h.nextCheckpoint
        nextEvent := h.nextEvent
        orders := hordersKept.mpr h.orderIds
        checkpoints := hkept
        roots := (hroots hkept hc.eq_of_root_eq).mpr ⟨hdiffer, h.roots⟩ }

end Application

structure Transaction.Adds (t : Transaction) (b : Books) : Prop where
  deposits : t.deposits.nextSeq = b.deposits.nextSeq
  orders : t.orders.Adds b.orders
  checkpoints : t.checkpoints.Adds b.checkpoints
  claimed : t.checkpoints.Claimed rootIndex
  events : t.events.Adds b.events

namespace Transaction

variable {t : Transaction} {b : Books}

lemma Adds.begin (stamp : Stamp) (b : Books) (audited : Bool) :
    (Transaction.begin stamp b audited).Adds b :=
  ⟨rfl, .begin b.orders, .begin b.checkpoints, .begin b.checkpoints, .begin b.events⟩

lemma Adds.tidy (h : t.Adds b) (hb : b.Tidy) : t.changes.Tidy :=
  ⟨h.deposits.trans hb.deposits, h.orders.writes, h.claimed.writeSet⟩

lemma Adds.fits (h : t.Adds b) {audited : Bool} (ho : t.Over b audited) : t.changes.Fits b where
  nextOrder := h.orders.next
  nextCheckpoint := h.checkpoints.next
  nextEvent := h.events.next
  orderIds o hmem x hx hid := absurd hid (h.orders.ne_of_mem hmem hx)
  checkpointIds x hmem y hy hid := absurd hid (h.checkpoints.ne_of_mem hmem hy)
  roots x hmem y hy hroot := by
    have hkept : ∀ w ∈ t.checkpoints.writes, checkpointSchema.key w ≠ checkpointSchema.key y :=
      fun w hw => (h.checkpoints.ne_of_mem hw hy).symm
    have hx : x ∈ t.checkpoints.rows := ho.checkpoints.mem_rows_iff.mpr (.inl hmem)
    have hy : y ∈ t.checkpoints.rows := ho.checkpoints.mem_rows_iff.mpr (.inr ⟨hy, hkept⟩)
    exact ho.checkpoints.eq_of_index_eq checkpointSchema_index hy hx (congrArg Root.bytes hroot)

end Transaction

namespace Staging

variable {γ : Type} {b : Books}

lemma adds_allocateOrderId :
    Upholds (fun t => t.Adds b) (allocateOrderId : Staging γ OrderId) := by
  intro s hs
  cases ho : s.tx.orders.allocate with
  | error f => simpa [allocateOrderId, ho] using hs
  | ok p => simpa [allocateOrderId, ho] using { hs with orders := hs.orders.allocate ho }

lemma adds_insertOrder (o : Order) :
    Upholds (fun t => t.Adds b) (insertOrder o : Staging γ Unit) := by
  intro s hs
  rw [runIn_insertOrder_eq]
  cases ho : s.tx.orders.insert o with
  | error f => exact hs
  | ok orders => exact { hs with orders := hs.orders.insert ho }

lemma adds_allocateCheckpointId :
    Upholds (fun t => t.Adds b) (allocateCheckpointId : Staging γ CheckpointId) := by
  intro s hs
  cases hc : s.tx.checkpoints.allocate with
  | error f => simpa [allocateCheckpointId, hc] using hs
  | ok p =>
    simpa [allocateCheckpointId, hc] using
      { hs with
        checkpoints := hs.checkpoints.allocate hc
        claimed := hs.claimed.allocate hc }

lemma adds_insertCheckpoint (c : Checkpoint) :
    Upholds (fun t => t.Adds b) (insertCheckpoint c : Staging γ Unit) := by
  intro s hs
  rw [runIn_insertCheckpoint_eq]
  cases hc : s.tx.checkpoints.insert c with
  | error f => exact hs
  | ok checkpoints =>
    exact { hs with
      checkpoints := hs.checkpoints.insert hc
      claimed := hs.claimed.insert checkpointSchema_index hc }

lemma adds_emit (kind : EventKind) :
    Upholds (fun t => t.Adds b) (emit kind : Staging γ Unit) := by
  intro s hs
  rw [runIn_emit_eq]
  split
  case isFalse => exact hs
  case isTrue =>
    cases ha : s.tx.events.allocate with
    | error f => exact hs
    | ok p =>
      obtain ⟨seq, events⟩ := p
      have hnext := hs.events.allocate ha
      dsimp only
      cases hi : events.insert (.chained seq s.tx.stamp kind (s.tx.digestBefore seq)) with
      | error f => exact { hs with events := hnext }
      | ok events' => exact { hs with events := hnext.insert hi }

lemma adds_act [Payer γ] (a : Act) :
    Upholds (fun t => t.Adds b) (a.respond : Staging γ Reply) := by
  refine Stable.act (upholds_stable (fun t d h => ?_) adds_allocateOrderId adds_insertOrder
    adds_allocateCheckpointId adds_insertCheckpoint adds_emit) (fun owner s h => ?_) a
  · exact { h with deposits := h.deposits }
  · exact { h with }

end Staging

variable {γ : Type} [Payer γ]

lemma Books.adds_changesOf (b : Books) (d : Deed γ) :
    ∃ t : Transaction, t.Adds b ∧ b.changesOf d = t.changes ∧
      (b.Settled → t.Over b d.audited) := by
  let s := (Custody.mk b d.payer).session d.audited d.stamp
  refine ⟨(s.enact d.acts).2.tx, ?_, rfl, fun hb => ?_⟩
  · exact s.enact_upholds Staging.adds_act (.begin d.stamp b d.audited) d.acts
  · have hbegin := Session.Matches.begin (k := ⟨b, d.payer⟩) hb d.audited d.stamp d.stamp
    exact (hbegin.enact d.acts).left

lemma Books.Tidy.changesOf {b : Books} (hb : b.Tidy) (d : Deed γ) : (b.changesOf d).Tidy := by
  obtain ⟨t, ht, heq, -⟩ := b.adds_changesOf d
  exact heq ▸ ht.tidy hb

lemma Books.Tidy.opened (owner : Account) : Tidy { owner := owner } :=
  ⟨rfl, List.Pairwise.nil, List.Pairwise.nil⟩

lemma Books.tidy_reached (owner : Account) (deeds : List (Deed γ)) : (reached owner deeds).Tidy :=
  reached_invariant (.opened owner) (fun _ d h => h.apply (h.changesOf d)) deeds

lemma Books.Settled.rootsDiffer {b : Books} (h : b.Settled) : b.RootsDiffer := by
  refine List.Nodup.map_on (fun c hc c' hc' hroot => ?_) h.checkpoints.ascending.nodup
  exact (h.checkpoints.exact rootIndex checkpointSchema_index).eq_of_index_eq
    h.checkpoints.ascending hc hc' (congrArg Root.bytes hroot)

namespace Pending

lemma tidy_run (owner : Account) (moves : List (Move γ)) :
    let p := ({ books := { owner := owner } } : Pending).run moves
    p.books.Tidy ∧ ∀ c ∈ p.held, c.Tidy :=
  run_invariant (P := Books.Tidy) (Q := fun _ c => c.Tidy) (fun _ d hb => hb.changesOf d)
    (fun _ _ hb hc => hb.apply hc) (fun _ _ _ _ _ hc => hc) (.opened owner)
    (fun _ hc => absurd hc List.not_mem_nil) moves

/-- Whenever changes are applied that were held, no sequence goes back, no order or checkpoint is
replaced and no root is there twice if and only if no root was there twice before and the changes
fit the books as they are by then. Changes that are applied at once, as all before them were, are
always safe. -/
theorem safeStep_iff_fits (owner : Account) :
    (∀ moves : List (Move γ),
      let p := ({ books := { owner := owner } } : Pending).run moves
      ∀ c ∈ p.held,
        p.books.SafeStep (p.books.apply c) ↔ p.books.RootsDiffer ∧ c.Fits p.books) ∧
      ∀ (deeds : List (Deed γ)) (d : Deed γ),
        (Books.reached owner deeds).SafeStep ((Books.reached owner deeds).after d) := by
  refine ⟨fun moves => ?_, fun deeds d => ?_⟩
  · obtain ⟨hbooks, hheld⟩ := tidy_run owner moves
    exact fun c hc => hbooks.safeStep_apply_iff (hheld c hc)
  · have hsettled := Books.settled_reached owner deeds
    have htidy := Books.tidy_reached owner deeds
    obtain ⟨t, ht, heq, hover⟩ := (Books.reached owner deeds).adds_changesOf d
    have hsafe := (htidy.safeStep_apply_iff (htidy.changesOf d)).mpr
      ⟨hsettled.rootsDiffer, heq ▸ ht.fits (hover hsettled)⟩
    exact hsafe

def filings : List (Move RecordingPayer) :=
  let ann : Account := ⟨"ann"⟩
  let place (price value : UInt64) : Act :=
    .call (.placeOrder ⟨.placeOrder, ann⟩ ⟨ann, price, price, value⟩)
  let record (byte : UInt8) : Act :=
    .call (.record ⟨.recordCheckpoint, ⟨"exchange"⟩⟩ ⟨[byte]⟩ 128)
  [.hold ⟨.ofSeconds 0, false, {}, [place 1 5, record 0xab]⟩,
    .hold ⟨.ofSeconds 0, false, {}, [place 2 5, place 3 0, record 0xcd, record 0xab]⟩]

def filed (moves : List (Move RecordingPayer)) : Pending :=
  ({ books := { owner := ⟨"exchange"⟩ } } : Pending).run (filings ++ moves)

theorem safeStep_iff_fits_filings :
    (∀ c ∈ (filed []).held, c.Fits (filed []).books ∧
        (filed []).books.SafeStep ((filed []).books.apply c)) ∧
      ∃ c ∈ (filed [.apply 1]).held, (filed [.apply 1]).books.RootsDiffer ∧
        ¬ c.Fits (filed [.apply 1]).books ∧
        ¬ (filed [.apply 1]).books.SafeStep ((filed [.apply 1]).books.apply c) := by
  have hiff : ∀ moves, ∀ c ∈ (filed moves).held,
      (filed moves).books.SafeStep ((filed moves).books.apply c) ↔
        (filed moves).books.RootsDiffer ∧ c.Fits (filed moves).books :=
    fun moves => (safeStep_iff_fits ⟨"exchange"⟩).1 (filings ++ moves)
  have hfits : ∀ c ∈ (filed []).held, c.Fits (filed []).books := by decide
  have hmisfit : ∃ c ∈ (filed [.apply 1]).held, (filed [.apply 1]).books.RootsDiffer ∧
      ¬ c.Fits (filed [.apply 1]).books := by decide
  obtain ⟨c, hc, hdiffer, hnot⟩ := hmisfit
  exact ⟨fun c hc => ⟨hfits c hc, (hiff [] c hc).mpr ⟨by decide, hfits c hc⟩⟩, c, hc, hdiffer,
    hnot, fun hsafe => hnot ((hiff [.apply 1] c hc).mp hsafe).2⟩

theorem safeStep_fails_late :
    let b := (filed [.apply 1]).books
    let b' := (filed [.apply 1, .apply 0]).books
    ¬ b.SafeStep b' ∧
      b.orders.nextSeq = 2 ∧ b'.orders.nextSeq = 1 ∧
      b.orders.rows = [⟨⟨0⟩, ⟨"ann"⟩, 2, 2, 5⟩, ⟨⟨1⟩, ⟨"ann"⟩, 3, 3, 0⟩] ∧
      b'.orders.rows = [⟨⟨0⟩, ⟨"ann"⟩, 1, 1, 5⟩, ⟨⟨1⟩, ⟨"ann"⟩, 3, 3, 0⟩] ∧
      b.checkpoints.nextSeq = 2 ∧ b'.checkpoints.nextSeq = 1 ∧
      b.checkpoints.rows = [⟨⟨0⟩, ⟨[0xcd]⟩⟩, ⟨⟨1⟩, ⟨[0xab]⟩⟩] ∧
      b'.checkpoints.rows = [⟨⟨0⟩, ⟨[0xab]⟩⟩, ⟨⟨1⟩, ⟨[0xab]⟩⟩] := by
  decide

end Pending

end Depository
