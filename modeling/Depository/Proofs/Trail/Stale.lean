import Depository.Proofs.Pending
import Depository.Proofs.Trail.Integrity
import Mathlib.Data.List.Range

namespace Depository

open Store

structure Stretch (first : Nat) (es : List Event) : Prop where
  seqs : es.map (fun e => e.seq.toNat) = List.range' first es.length
  intact : ∀ e ∈ es, e.isIntact = true

namespace Stretch

variable {first : Nat} {e : Event} {es ws : List Event}

lemma nil (first : Nat) : Stretch first [] := ⟨rfl, by simp⟩

lemma cons_iff : Stretch first (e :: es) ↔
    (e.seq.toNat = first ∧ e.isIntact = true) ∧ Stretch (first + 1) es := by
  constructor
  · rintro ⟨hseqs, hintact⟩
    rw [List.map_cons, List.length_cons, List.range'_succ, List.cons.injEq] at hseqs
    exact ⟨⟨hseqs.1, hintact e List.mem_cons_self⟩, hseqs.2,
      fun x hx => hintact x (List.mem_cons_of_mem e hx)⟩
  · rintro ⟨⟨hseq, he⟩, hseqs, hintact⟩
    refine ⟨?_, List.forall_mem_cons.mpr ⟨he, hintact⟩⟩
    rw [List.map_cons, List.length_cons, List.range'_succ, hseq, hseqs]

lemma isSome_find?_iff (h : Stretch first es) (seq : UInt64) :
    (eventSchema.find? seq es).isSome = true ↔
      first ≤ seq.toNat ∧ seq.toNat < first + es.length := by
  have hmem : seq.toNat ∈ es.map (fun e => e.seq.toNat) ↔
      first ≤ seq.toNat ∧ seq.toNat < first + es.length := by
    rw [h.seqs]
    exact List.mem_range'_1
  rw [← hmem, ← not_iff_not, Bool.not_eq_true, Option.isSome_eq_false_iff, Option.isNone_iff_eq_none,
    Schema.find?_eq_none_iff, List.mem_map]
  constructor
  · rintro hnone ⟨e, he, hseq⟩
    exact hnone e he (UInt64.toNat_inj.mp hseq)
  · rintro hnone e he rfl
    exact hnone ⟨e, he, rfl⟩

lemma put (h : Stretch first es) (he : e.isIntact = true) (hlo : first ≤ e.seq.toNat)
    (hhi : e.seq.toNat ≤ first + es.length) :
    Stretch first (eventSchema.put e es) ∧
      first + (eventSchema.put e es).length = max (first + es.length) (e.seq.toNat + 1) := by
  induction es generalizing first with
  | nil =>
    have hseq : e.seq.toNat = first := Nat.le_antisymm hhi hlo
    refine ⟨cons_iff.mpr ⟨⟨hseq, he⟩, nil _⟩, ?_⟩
    simp [Schema.put, hseq]
  | cons t ts ih =>
    obtain ⟨⟨hseq, ht⟩, hts⟩ := cons_iff.mp h
    rw [List.length_cons] at hhi
    rcases Nat.lt_or_eq_of_le hlo with hlt | heq
    · have hgt : compare (eventSchema.key e) (eventSchema.key t) = .gt :=
        Std.compare_eq_gt.mpr (UInt64.lt_iff_toNat_lt.mpr (hseq ▸ hlt))
      obtain ⟨hput, hlength⟩ := ih hts hlt (by omega)
      rw [Schema.put, hgt]
      refine ⟨cons_iff.mpr ⟨⟨hseq, ht⟩, hput⟩, ?_⟩
      simp only [List.length_cons]
      omega
    · have hkey : eventSchema.key e = eventSchema.key t :=
        UInt64.toNat_inj.mp (heq.symm.trans hseq.symm)
      rw [Schema.put, hkey, Std.compare_self]
      refine ⟨cons_iff.mpr ⟨⟨heq.symm, he⟩, hts⟩, ?_⟩
      simp only [List.length_cons]
      omega

lemma foldl_put (h : Stretch 0 es) (hw : Stretch first ws) (hfirst : first ≤ es.length) :
    Stretch 0 (ws.foldl (fun rows e => eventSchema.put e rows) es) ∧
      (ws.foldl (fun rows e => eventSchema.put e rows) es).length =
        max es.length (first + ws.length) := by
  induction ws generalizing first es with
  | nil => exact ⟨h, by simp [hfirst]⟩
  | cons w ws ih =>
    obtain ⟨⟨hseq, hintact⟩, hws⟩ := cons_iff.mp hw
    obtain ⟨hput, hlength⟩ := h.put hintact (Nat.zero_le _) (by omega)
    rw [Nat.zero_add, Nat.zero_add, hseq] at hlength
    obtain ⟨hfold, hfolded⟩ := ih hput hws (by omega)
    refine ⟨hfold, hfolded.trans ?_⟩
    rw [hlength, List.length_cons]
    omega

lemma verifyFrom_error (h : Stretch first es) {previous : Digest} {f : Failure}
    (hf : verifyFrom first.toUInt64 previous es = .error f) :
    ∃ e ∈ es, f = .chainBroken e.seq LinkFlaw.link.message := by
  induction es generalizing first previous with
  | nil => cases hf
  | cons e es ih =>
    obtain ⟨⟨hseq, hintact⟩, hes⟩ := cons_iff.mp h
    have hnumber : e.seq = first.toUInt64 := by
      rw [← hseq]
      exact (UInt64.ofNat_toNat).symm
    have hnext : first.toUInt64 + 1 = (first + 1).toUInt64 := by simp
    rw [verifyFrom] at hf
    by_cases hlink : e.previous = previous
    · have hfollows : e.linkFlaw? first.toUInt64 previous = none := by
        simp [Event.linkFlaw?, hnumber, hlink, hintact]
      rw [hfollows, hnext] at hf
      obtain ⟨x, hx, hxf⟩ := ih hes hf
      exact ⟨x, List.mem_cons_of_mem e hx, hxf⟩
    · have hbroken : e.linkFlaw? first.toUInt64 previous = some .link := by
        simp [Event.linkFlaw?, hnumber, hlink]
      rw [hbroken] at hf
      exact ⟨e, List.mem_cons_self, (Except.error.inj hf).symm⟩

end Stretch

/-- All numbers below the length are in use, though the next one to be tried may be one of them. -/
structure Store.Table.Whole (t : Table eventSchema) : Prop where
  rows : Stretch 0 t.rows
  next : t.nextSeq.toNat ≤ t.rows.length

structure Store.WriteSet.Prolongs (w : WriteSet eventSchema) (first : Nat) : Prop where
  rows : Stretch first w.rows
  next : w.nextSeq.toNat ≤ first + w.rows.length

lemma Store.Table.Whole.apply {t : Table eventSchema} (h : t.Whole) {w : WriteSet eventSchema}
    {first : Nat} (hw : w.Prolongs first) (hfirst : first ≤ t.rows.length) :
    (t.apply w).Whole ∧ t.rows.length ≤ (t.apply w).rows.length := by
  obtain ⟨hrows, hlength⟩ := h.rows.foldl_put hw.rows hfirst
  have hnext := hw.next
  refine ⟨⟨hrows, ?_⟩, ?_⟩
  · change w.nextSeq.toNat ≤ (w.rows.foldl _ t.rows).length
    omega
  · change t.rows.length ≤ (w.rows.foldl _ t.rows).length
    omega

structure Store.Overlay.Extends (o : Overlay eventSchema) (t : Table eventSchema) : Prop where
  base : o.base = t
  writes : o.writeSet.Prolongs t.rows.length

lemma Store.Overlay.Extends.isSome_get?_iff {t : Table eventSchema} (ht : t.Whole)
    {o : Overlay eventSchema} (h : o.Extends t) (seq : UInt64) :
    (o.get? seq).isSome = true ↔ seq.toNat < t.rows.length + o.writes.length := by
  have hbase := ht.rows.isSome_find?_iff seq
  have hwrites := h.writes.rows.isSome_find?_iff seq
  change (eventSchema.find? seq o.writes).isSome = true ↔
    t.rows.length ≤ seq.toNat ∧ seq.toNat < t.rows.length + o.writes.length at hwrites
  rw [Overlay.get?, h.base, Option.orElse_eq_orElse, Option.orElse_eq_or, Option.isSome_or,
    Bool.or_eq_true, hwrites, Table.get?, hbase]
  omega

lemma Store.Overlay.Extends.noting {t : Table eventSchema} {tx : Transaction}
    (h : tx.events.Extends t) (hn : tx.audited = true → HasNext tx.events.nextSeq)
    (hfree : tx.events.nextSeq.toNat = t.rows.length + tx.events.writes.length)
    (kind : EventKind) : (tx.noting kind).events.Extends t := by
  cases ha : tx.audited with
  | false => simpa [Transaction.noting, ha] using h
  | true =>
    have hnext := (hn ha).toNat_succ
    obtain ⟨hput, hlength⟩ := h.writes.rows.put (e := .chained tx.events.nextSeq tx.stamp kind
      (tx.digestBefore tx.events.nextSeq)) (decide_eq_true rfl)
      (Nat.le_of_add_right_le (Nat.le_of_eq hfree.symm)) (Nat.le_of_eq hfree)
    simp only [Transaction.noting, ha, if_true]
    refine ⟨h.base, hput, ?_⟩
    change (tx.events.nextSeq + 1).toNat ≤ _ + (eventSchema.put _ tx.events.writes).length
    have hlast : t.rows.length + (eventSchema.put _ tx.events.writes).length =
      max _ (tx.events.nextSeq.toNat + 1) := hlength
    omega

namespace Staging

variable {γ : Type} {t : Table eventSchema}

lemma upholds_emit_extends (ht : t.Whole) (kind : EventKind) :
    Upholds (fun t' => t'.events.Extends t) (emit kind : Staging γ Unit) := by
  intro s hs
  have hused := hs.isSome_get?_iff ht s.tx.events.nextSeq
  have hle : s.tx.events.nextSeq.toNat ≤ t.rows.length + s.tx.events.writes.length := hs.writes.next
  cases he : s.tx.events.get? s.tx.events.nextSeq with
  | none =>
    have hfree : ¬ s.tx.events.nextSeq.toNat < t.rows.length + s.tx.events.writes.length := by
      simpa [he] using hused
    rw [runIn_emit s he]
    split
    · exact hs
    case isFalse hn =>
      exact hs.noting (fun ha => not_not.mp fun hnot => hn ⟨ha, hnot⟩) (by omega) kind
  | some e =>
    have hlt : s.tx.events.nextSeq.toNat < t.rows.length + s.tx.events.writes.length := by
      simpa [he] using hused
    cases ha : s.tx.audited with
    | false =>
      rw [runIn_emit_eq, ha]
      exact hs
    | true =>
      by_cases hn : HasNext s.tx.events.nextSeq
      · rw [runIn_emit_taken he ha hn]
        exact ⟨hs.base, hs.writes.rows, hn.toNat_succ ▸ hlt⟩
      · have hfull : s.tx.events.allocate = .error (.idSpaceExhausted "event") := if_neg hn
        rw [runIn_emit_eq, ha, hfull]
        exact hs

end Staging

variable {γ : Type} [Payer γ]

lemma Books.prolongs_changesOf {b : Books} (h : b.events.Whole) (d : Deed γ) :
    (b.changesOf d).events.Prolongs b.events.rows.length := by
  have hbegin : (Overlay.begin b.events).Extends b.events := ⟨rfl, .nil _, h.next⟩
  have hlast := Session.enact_events (I := (·.Extends b.events))
    (s := (Custody.mk b d.payer).session d.audited d.stamp)
    (Staging.upholds_emit_extends h) hbegin d.acts
  exact hlast.writes

lemma Pending.whole_run (owner : Account) (moves : List (Move γ)) :
    (({ books := { owner := owner } } : Pending).run moves).books.events.Whole := by
  -- A held set still fits if the table has grown since, as it starts no later than the table ends.
  have hrun := Pending.run_invariant (P := fun b => b.events.Whole)
    (Q := fun b c => ∃ first ≤ b.events.rows.length, c.events.Prolongs first)
    (p := { books := { owner := owner } }) (fun b (d : Deed γ) hb =>
      ⟨_, Nat.le_refl _, b.prolongs_changesOf hb d⟩) ?_ ?_ ⟨.nil 0, Nat.le_refl 0⟩
    (fun c hc => absurd hc (List.not_mem_nil)) moves
  · exact hrun.1
  · rintro b c hb ⟨first, hfirst, hc⟩
    exact (hb.apply hc hfirst).1
  · rintro b c c' hb ⟨first, hfirst, hc⟩ ⟨first', hfirst', hc'⟩
    exact ⟨first', Nat.le_trans hfirst' (hb.apply hc hfirst).2, hc'⟩

/-- Whatever transactions do and whenever their changes are applied, the events are numbered from
zero without gaps, the next number is at most their count and each event is intact. So a link that
is broken is all that a check of the trail can find. -/
theorem Pending.trail_whole (owner : Account) (moves : List (Move γ)) :
    let events := (({ books := { owner := owner } } : Pending).run moves).books.events
    events.rows.map (fun e => e.seq.toNat) = List.range events.rows.length ∧
      events.nextSeq.toNat ≤ events.rows.length ∧
      (∀ e ∈ events.rows, e.isIntact = true) ∧
      ∀ f, verifyChain events.rows = .error f → ∃ e ∈ events.rows,
        f = .chainBroken e.seq "prev_digest does not link to preceding event" := by
  obtain ⟨hrows, hnext⟩ := Pending.whole_run owner moves
  exact ⟨hrows.seqs.trans (List.range_eq_range' ..).symm, hnext, hrows.intact,
    fun f hf => hrows.verifyFrom_error hf⟩

def overtaken : List (Move RecordingPayer) :=
  [.hold ⟨.ofSeconds 0, true, {}, [.emit (.withdrawn ⟨"ann"⟩ 1), .emit (.withdrawn ⟨"ann"⟩ 2)]⟩,
    .hold ⟨.ofSeconds 1, true, {}, [.emit (.withdrawn ⟨"bob"⟩ 3)]⟩, .apply 0, .apply 1]

example :
    let events := (({ books := { owner := ⟨"keeper"⟩ } } : Pending).run overtaken).books.events
    events.rows.map (fun e => (e.seq, e.kind)) =
      [(0, .withdrawn ⟨"bob"⟩ 3), (1, .withdrawn ⟨"ann"⟩ 2)] ∧ events.nextSeq = 1 := by
  decide

end Depository
