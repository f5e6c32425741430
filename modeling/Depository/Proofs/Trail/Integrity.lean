import Depository.Proofs.Grouping
import Depository.Proofs.Ledger.History

namespace Depository

open Store

structure Unbroken (t : Table eventSchema) (o : Overlay eventSchema) : Prop where
  base : o.base = t
  ordered : o.Ordered
  serial : eventSchema.Serial o.rows o.nextSeq
  verified : verifyChain o.rows = .ok ()

lemma Unbroken.apply_rows {t : Table eventSchema} {o : Overlay eventSchema} (h : Unbroken t o) :
    (t.apply o.writeSet).rows = o.rows := by
  rw [Overlay.rows, h.base]
  rfl

lemma Event.follows_serial {es : List Event} {next : UInt64} (h : eventSchema.Serial es next)
    (stamp : Stamp) (kind : EventKind) :
    (Event.chained next stamp kind (digestAfter genesis es)).Follows es.length.toUInt64
      (digestAfter genesis es) := by
  have hnext : es.length.toUInt64 = next := by simp [h.length]
  rw [hnext]
  exact Event.chained_follows next stamp kind _

lemma Unbroken.noting {t : Table eventSchema} {tx : Transaction} (h : Unbroken t tx.events)
    (hn : tx.audited = true → HasNext tx.events.nextSeq) (kind : EventKind) :
    Unbroken t (tx.noting kind).events := by
  cases ha : tx.audited with
  | false => simpa [Transaction.noting, ha] using h
  | true =>
    have hordered : { tx.events with nextSeq := tx.events.nextSeq + 1 }.Ordered :=
      ⟨h.ordered.base, h.ordered.writes⟩
    have hput : ∀ e : Event, e.seq = tx.events.nextSeq →
        eventSchema.put e tx.events.rows = tx.events.rows ++ [e] := fun e he => h.serial.put he
    have hrows := hordered.rows_stage (.chained tx.events.nextSeq tx.stamp kind
      (tx.digestBefore tx.events.nextSeq))
    rw [Transaction.digestBefore_next h.ordered h.serial] at hrows
    have happend := hrows.trans (hput _ rfl)
    simp only [Transaction.noting, ha, if_true]
    rw [Transaction.digestBefore_next h.ordered h.serial]
    refine ⟨h.base, hordered.stage _, ?_, ?_⟩
    · rw [happend]
      exact h.serial.append rfl (hn ha)
    · rw [happend, verifyChain_concat_iff]
      exact ⟨h.verified, Event.follows_serial h.serial tx.stamp kind⟩

lemma Unbroken.upholds_emit {γ : Type} (t : Table eventSchema) (kind : EventKind) :
    Staging.Upholds (fun tx => Unbroken t tx.events) (Staging.emit kind : Staging γ Unit) := by
  intro s hs
  have hfresh : s.tx.events.get? s.tx.events.nextSeq = none :=
    (hs.ordered.get? _).trans hs.serial.find?_next
  rw [Staging.runIn_emit s hfresh]
  split
  · exact hs
  case isFalse hn => exact hs.noting (fun ha => not_not.mp fun hnot => hn ⟨ha, hnot⟩) kind

namespace Books

variable {b : Books}

/-- The trail is a chain from genesis whose numbers go up to the next. -/
structure Chronicled (b : Books) : Prop where
  serial : eventSchema.Serial b.events.rows b.events.nextSeq
  verified : verifyChain b.events.rows = .ok ()

lemma Chronicled.opened (owner : Account) : Chronicled { owner := owner } :=
  ⟨Store.Schema.Serial.nil, rfl⟩

lemma Chronicled.seqs (h : b.Chronicled) :
    b.events.rows.map (fun e => e.seq.toNat) = List.range b.events.nextSeq.toNat := by
  have hlen : b.events.rows.length = b.events.nextSeq.toNat := h.serial.length
  refine List.ext_getElem (by simp [hlen]) fun i hi _ => ?_
  have hrow : i < b.events.rows.length := by simpa using hi
  have hseq : b.events.rows[i].seq = i.toUInt64 := h.serial.key_getElem i hrow
  rw [List.getElem_map, List.getElem_range, hseq]
  exact UInt64.toNat_ofNat_of_lt' (Nat.lt_trans (hlen ▸ hrow) b.events.nextSeq.toNat_lt)

lemma Chronicled.enact (hs : b.Sound) (h : b.Chronicled) {audited : Bool} {kind : EventKind}
    (hw : b.Warrants kind) (hn : audited = true → HasNext b.events.nextSeq) (stamp : Stamp) :
    (b.enact audited stamp kind).Chronicled := by
  refine ⟨(hs.enact hw hn stamp).events, ?_⟩
  cases audited with
  | false =>
    have hevents : (b.enact false stamp kind).events = b.events := b.carryOut_events kind
    rw [hevents]
    exact h.verified
  | true =>
    rw [hs.enact_rows, verifyChain_concat_iff]
    exact ⟨h.verified, Event.follows_serial h.serial stamp kind⟩

variable {γ : Type} [Payer γ]

def close (b : Books) (d : Deed γ) (commits : Bool) : Books :=
  if commits then b.after d else b

def closed (owner : Account) (deeds : List (Deed γ × Bool)) : Books :=
  deeds.foldl (fun b (d, commits) => b.close d commits) { owner := owner }

lemma Chronicled.after (h : b.Chronicled) (d : Deed γ) : (b.after d).Chronicled := by
  -- The committed table does not change while the acts run, only what is staged over it.
  have hbegin : Unbroken b.events (Store.Overlay.begin b.events) :=
    ⟨rfl, .begin h.serial.ascending, h.serial, h.verified⟩
  have hlast := Session.enact_events (s := (Custody.mk b d.payer).session d.audited d.stamp)
    (Unbroken.upholds_emit b.events) hbegin d.acts
  constructor
  · change eventSchema.Serial (b.events.apply _).rows _
    exact hlast.apply_rows.symm ▸ hlast.serial
  · change verifyChain (b.events.apply _).rows = .ok ()
    exact hlast.apply_rows.symm ▸ hlast.verified

lemma Chronicled.close (h : b.Chronicled) (d : Deed γ) (commits : Bool) :
    (b.close d commits).Chronicled := by
  cases commits with
  | true => exact h.after d
  | false => exact h

lemma Chronicled.closed (owner : Account) (deeds : List (Deed γ × Bool)) :
    (closed owner deeds).Chronicled := by
  have hrun : ∀ b : Books, b.Chronicled →
      (deeds.foldl (fun b (d, commits) => b.close d commits) b).Chronicled := by
    induction deeds with
    | nil => exact fun b h => h
    | cons x deeds ih => exact fun b h => ih _ (h.close x.1 x.2)
  exact hrun _ (.opened owner)

end Books

namespace Ledger

variable {γ : Type} [Payer γ] {l : Ledger γ}

lemma chronicled_step (hs : l.books.Sound) (h : l.books.Chronicled) (s : Step γ) :
    (l.step s).books.Chronicled := by
  rcases step_cases hs s with ⟨-, hb | ⟨stamp, kind, hw, hn, hb⟩⟩
  · exact hb.symm ▸ h
  · exact hb.symm ▸ h.enact hs hw hn stamp

lemma chronicled_run (hs : l.books.Sound) (h : l.books.Chronicled) (steps : List (Step γ)) :
    (l.run steps).books.Chronicled := by
  have hrun := run_invariant (P := fun k => k.books.Sound ∧ k.books.Chronicled) ⟨hs, h⟩
    steps fun s _ k hk => ⟨hk.1.step s, chronicled_step hk.1 hk.2 s⟩
  exact hrun.2

lemma events_perform (h : l.books.Sound) (ha : l.settings.eventLog = true) (stamp : Stamp)
    (caller : Account) (r : Request) :
    match (l.perform stamp caller r).outcome with
    | .ok _ => ∃ e, (l.perform stamp caller r).ledger.events = l.events ++ [e]
    | .error _ => (l.perform stamp caller r).ledger.events = l.events := by
  rcases perform_cases h stamp caller r with
    ⟨e, p, ho, hl, -⟩ | ⟨kind, p, -, ho, hl, -⟩
  · rw [ho, hl]
    rfl
  · rw [ho, hl, ha]
    exact ⟨_, h.enact_rows stamp kind⟩

/-- Books that come of transactions on their own, whether these are committed in the end or dropped,
and ledgers that come of requests: either way the trail is numbered without gaps and verifies, and a
request adds an event just if it is answered. -/
theorem trail_verifies :
    (∀ (owner : Account) (deeds : List (Deed γ × Bool)) (b : Books), b = .closed owner deeds →
      b.events.rows.map (fun e => e.seq.toNat) = List.range b.events.nextSeq.toNat ∧
        verifyChain b.events.rows = .ok ()) ∧
    ∀ (settings : Settings) (payer : γ) (l : Ledger γ) (log : List LogRecord),
      create settings payer = .ok (l, log) → settings.eventLog = true →
      ∀ steps : List (Step γ), (l.run steps).verify = .ok () ∧
        ∀ stamp caller r,
          match ((l.run steps).perform stamp caller r).outcome with
          | .ok _ => ∃ e, ((l.run steps).perform stamp caller r).ledger.events =
              (l.run steps).events ++ [e]
          | .error _ => ((l.run steps).perform stamp caller r).ledger.events =
              (l.run steps).events := by
  constructor
  · rintro owner deeds b rfl
    have hb := Books.Chronicled.closed owner deeds
    exact ⟨hb.seqs, hb.verified⟩
  · intro settings payer l log hl ha steps
    obtain ⟨-, rfl, -⟩ := create_eq_ok_iff.mp hl
    have hsound := Books.Sound.opened settings.owner
    have hrun := chronicled_run (l := ⟨{ owner := settings.owner }, settings, payer⟩) hsound
      (.opened settings.owner) steps
    refine ⟨hrun.verified, fun stamp caller r => ?_⟩
    have haudited := settings_run (l := ⟨{ owner := settings.owner }, settings, payer⟩) hsound steps
    exact events_perform (hsound.run steps) (by rw [haudited]; exact ha) stamp caller r

/-- A payout is rejected after its event was staged, and the transaction is committed all the same;
the next one is dropped. -/
def rejectedPayout : List (Deed RecordingPayer × Bool) :=
  let payOut : Act := .call (.withdraw ⟨.withdraw, ⟨"keeper"⟩⟩ ⟨"ann"⟩ 3)
  let place : Act := .call (.placeOrder ⟨.placeOrder, ⟨"keeper"⟩⟩ ⟨⟨"keeper"⟩, 1, 5, 5⟩)
  [(⟨.ofSeconds 0, true, { blocked := [⟨"ann"⟩] }, [payOut, place, payOut]⟩, true),
    (⟨.ofSeconds 1, true, {}, [payOut]⟩, false),
    (⟨.ofSeconds 2, true, {}, [place]⟩, true)]

theorem trail_verifies_interrupted :
    let steps : List (Step RecordingPayer) :=
      [.call (.ofSeconds 0) ⟨"keeper"⟩ (.deposit ⟨"keeper"⟩ 5), .tune (·.breakNext),
        .call (.ofSeconds 1) ⟨"keeper"⟩ (.withdraw ⟨"ann"⟩ 3)]
    let b := Books.closed ⟨"keeper"⟩ rejectedPayout
    (b.events.rows.map Event.kind = [.orderPlaced ⟨0⟩ ⟨"keeper"⟩ 1 5 5 5, .withdrawn ⟨"ann"⟩ 3,
        .orderPlaced ⟨1⟩ ⟨"keeper"⟩ 1 5 5 7] ∧
      b.events.rows.map (fun e => e.seq.toNat) = List.range b.events.nextSeq.toNat ∧
      verifyChain b.events.rows = .ok ()) ∧
    ∃ l log, create { owner := ⟨"keeper"⟩ } ({} : RecordingPayer) = .ok (l, log) ∧
      (l.run steps).events.length = 1 ∧ (l.run steps).verify = .ok () ∧
      ∃ e, ((l.run steps).perform (.ofSeconds 2) ⟨"keeper"⟩ (.withdraw ⟨"ann"⟩ 3)).ledger.events =
        (l.run steps).events ++ [e] := by
  intro steps b
  have hl : create { owner := ⟨"keeper"⟩ } ({} : RecordingPayer) = .ok
      (⟨{ owner := ⟨"keeper"⟩ }, { owner := ⟨"keeper"⟩ }, {}⟩, _) :=
    create_eq_ok_iff.mpr ⟨by decide, rfl, rfl⟩
  obtain ⟨hclosed, hledger⟩ := trail_verifies (γ := RecordingPayer)
  obtain ⟨hverified, happend⟩ := hledger _ _ _ _ hl rfl steps
  exact ⟨⟨by decide, hclosed _ rejectedPayout b rfl⟩, _, _, hl, by decide, hverified,
    happend (.ofSeconds 2) ⟨"keeper"⟩ (.withdraw ⟨"ann"⟩ 3)⟩

end Ledger

end Depository
