import Depository.Proofs.Trail.Chain
import Depository.Proofs.Trail.Encoding
import Mathlib.Algebra.Group.Nat.Defs
import Mathlib.Data.List.Induction

namespace Depository

namespace Event

def bytes (e : Event) : List UInt8 :=
  eventBytes e.seq e.previous e.kind

def Collides (e f : Event) : Prop :=
  e.digest = f.digest ∧ sha256 e.bytes = sha256 f.bytes ∧ e.bytes ≠ f.bytes

variable {e f : Event} {seq seq' : UInt64} {previous previous' : Digest}

lemma contents_eq_iff : e.contents = f.contents ↔
    e.seq = f.seq ∧ e.kind = f.kind ∧ e.previous = f.previous ∧ e.digest = f.digest := by
  simp [contents]

lemma Follows.contents_or_collides (he : e.Follows seq previous) (hf : f.Follows seq' previous')
    (hd : e.digest = f.digest) : e.contents = f.contents ∨ e.Collides f := by
  by_cases hb : e.bytes = f.bytes
  · obtain ⟨hseq, hprevious, hkind⟩ := eventBytes_injective hb
    exact .inl (contents_eq_iff.mpr ⟨hseq, hkind, hprevious, hd⟩)
  · have hsha : sha256 e.bytes = sha256 f.bytes := he.intact.trans (hd.trans hf.intact.symm)
    exact .inr ⟨hd, hsha, hb⟩

end Event

lemma contents_or_collision {es fs : List Event} (he : verifyChain es = .ok ())
    (hf : verifyChain fs = .ok ()) (hlen : es.length = fs.length)
    (hd : digestAfter genesis es = digestAfter genesis fs) :
    es.map Event.contents = fs.map Event.contents ∨ ∃ e ∈ es, ∃ f ∈ fs, e.Collides f := by
  -- From the end: equal digests fix the last events, and these the digests before them.
  induction es using List.reverseRecOn generalizing fs with
  | nil =>
    obtain rfl := List.eq_nil_of_length_eq_zero hlen.symm
    exact .inl rfl
  | append_singleton es e ih =>
    rcases List.eq_nil_or_concat' fs with rfl | ⟨fs, f, rfl⟩
    · simp at hlen
    · obtain ⟨hes, hefollows⟩ := verifyChain_concat_iff.mp he
      obtain ⟨hfs, hffollows⟩ := verifyChain_concat_iff.mp hf
      rw [digestAfter_concat, digestAfter_concat] at hd
      rcases hefollows.contents_or_collides hffollows hd with hb | hc
      · have hprevious := (Event.contents_eq_iff.mp hb).2.2.1
        rw [hefollows.previous, hffollows.previous] at hprevious
        rcases ih hes hfs (by simpa using hlen) hprevious with hrest | ⟨e', he', f', hf', hc⟩
        · exact .inl (by simp [hrest, hb])
        · exact .inr ⟨e', List.mem_append_left _ he', f', List.mem_append_left _ hf', hc⟩
      · exact .inr ⟨e, by simp, f, by simp, hc⟩

lemma digestAfter_getLast {es : List Event} (h : es ≠ []) :
    digestAfter genesis es = (es.getLast h).digest := by
  rw [digestAfter, List.getLast?_eq_getLast_of_ne_nil h]
  rfl

lemma length_eq_or_collides {es fs : List Event} {e f : Event}
    (he : e.Follows es.length.toUInt64 (digestAfter genesis es))
    (hf : f.Follows fs.length.toUInt64 (digestAfter genesis fs))
    (hel : es.length < 2 ^ 64) (hfl : fs.length < 2 ^ 64) (hd : e.digest = f.digest) :
    es.length = fs.length ∨ e.Collides f := by
  rcases he.contents_or_collides hf hd with hb | hc
  · have hseq := (Event.contents_eq_iff.mp hb).1
    rw [he.seq, hf.seq] at hseq
    have hnat : es.length.toUInt64.toNat = fs.length.toUInt64.toNat := by rw [hseq]
    have hesNat : es.length.toUInt64.toNat = es.length := UInt64.toNat_ofNat_of_lt' hel
    have hfsNat : fs.length.toUInt64.toNat = fs.length := UInt64.toNat_ofNat_of_lt' hfl
    exact .inl (by rw [← hesNat, hnat, hfsNat])
  · exact .inr hc

lemma verifyFrom_restamp (restamp : Event → Stamp) (seq : UInt64) (previous : Digest)
    (es : List Event) :
    verifyFrom seq previous (es.map fun e => { e with stamp := restamp e }) =
      verifyFrom seq previous es := by
  induction es generalizing seq previous with
  | nil => rfl
  | cons e es ih =>
    have hflaw : Event.linkFlaw? seq previous { e with stamp := restamp e } =
        e.linkFlaw? seq previous := rfl
    rw [List.map_cons, verifyFrom, verifyFrom, hflaw, ih]

/-- The messages that are digested tell events apart, two chains with the same last digest are the
same but for their stamps unless two of their messages collide, and stamps are not looked at. A
list in memory has no more events than 64 bits have numbers. -/
theorem last_digest_binds :
    (∀ seq previous kind seq' previous' kind',
      eventBytes seq previous kind = eventBytes seq' previous' kind' →
        seq = seq' ∧ previous = previous' ∧ kind = kind') ∧
    (∀ (es fs : List Event) (hes : es ≠ []) (hfs : fs ≠ []),
      es.length ≤ 2 ^ 64 → fs.length ≤ 2 ^ 64 →
      verifyChain es = .ok () → verifyChain fs = .ok () →
      (es.getLast hes).digest = (fs.getLast hfs).digest →
        es.map Event.contents = fs.map Event.contents ∨ ∃ e ∈ es, ∃ f ∈ fs, e.Collides f) ∧
    ∀ (restamp : Event → Stamp) (es : List Event),
      verifyChain (es.map fun e => { e with stamp := restamp e }) = verifyChain es := by
  refine ⟨fun _ _ _ _ _ _ h => eventBytes_injective h, ?_,
    fun restamp es => verifyFrom_restamp restamp 0 genesis es⟩
  intro es fs hes hfs hel hfl he hf hd
  have hdigest : digestAfter genesis es = digestAfter genesis fs := by
    rw [digestAfter_getLast hes, digestAfter_getLast hfs, hd]
  obtain ⟨es, e, rfl⟩ := (List.eq_nil_or_concat' es).resolve_left hes
  obtain ⟨fs, f, rfl⟩ := (List.eq_nil_or_concat' fs).resolve_left hfs
  -- Chains of different lengths part at once, for the last event holds its number.
  have hefollows := (verifyChain_concat_iff.mp he).2
  have hffollows := (verifyChain_concat_iff.mp hf).2
  rw [List.length_append] at hel hfl
  rcases length_eq_or_collides hefollows hffollows hel hfl (by simpa using hdigest) with
    hlen | hc
  · exact contents_or_collision he hf (by simp [hlen]) hdigest
  · exact .inr ⟨e, by simp, f, by simp, hc⟩

def firstDeposit (seconds : Int) : Event :=
  .chained 0 (.ofSeconds seconds) (.deposited ⟨"ann"⟩ 5 5) genesis

theorem last_digest_binds_restamped :
    verifyChain [firstDeposit 0] = .ok () ∧ verifyChain [firstDeposit 1] = .ok () ∧
      (firstDeposit 0).digest = (firstDeposit 1).digest ∧
      ([firstDeposit 0].map Event.contents = [firstDeposit 1].map Event.contents ∨
        ∃ e ∈ [firstDeposit 0], ∃ f ∈ [firstDeposit 1], e.Collides f) := by
  have hchain : ∀ seconds, verifyChain [firstDeposit seconds] = .ok () := fun seconds =>
    verifyFrom_cons_iff.mpr ⟨Event.chained_follows 0 _ _ genesis, rfl⟩
  obtain ⟨-, hbinds, -⟩ := last_digest_binds
  exact ⟨hchain 0, hchain 1, rfl, hbinds [firstDeposit 0] [firstDeposit 1] (by simp) (by simp)
    (by simp) (by simp) (hchain 0) (hchain 1) rfl⟩

end Depository
