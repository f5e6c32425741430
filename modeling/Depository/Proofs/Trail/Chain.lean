import Depository.Event
import Mathlib.Data.List.Basic

namespace Depository

def Stamp.ofSeconds (seconds : Int) : Stamp :=
  ⟨⟨⟨Vector.replicate 16 0⟩⟩, ⟨seconds, 0⟩⟩

def digestAfter (previous : Digest) (es : List Event) : Digest :=
  (es.getLast?.map Event.digest).getD previous

@[simp] lemma digestAfter_nil (previous : Digest) : digestAfter previous [] = previous := rfl

@[simp] lemma digestAfter_cons (previous : Digest) (e : Event) (es : List Event) :
    digestAfter previous (e :: es) = digestAfter e.digest es := by
  cases h : es.getLast? <;> simp [digestAfter, List.getLast?_cons, h]

@[simp] lemma digestAfter_concat (previous : Digest) (es : List Event) (e : Event) :
    digestAfter previous (es ++ [e]) = e.digest := by
  simp [digestAfter]

/-- What an event says apart from its stamp, which its digest does not bind. -/
def Event.contents (e : Event) : UInt64 × EventKind × Digest × Digest :=
  (e.seq, e.kind, e.previous, e.digest)

structure Event.Follows (e : Event) (seq : UInt64) (previous : Digest) : Prop where
  seq : e.seq = seq
  previous : e.previous = previous
  intact : eventDigest e.seq e.previous e.kind = e.digest

lemma Event.linkFlaw?_eq_none_iff {e : Event} {seq : UInt64} {previous : Digest} :
    e.linkFlaw? seq previous = none ↔ e.Follows seq previous := by
  constructor
  · intro h
    by_cases hs : e.seq = seq
    · by_cases hp : e.previous = previous
      · by_cases hi : eventDigest e.seq e.previous e.kind = e.digest
        · exact ⟨hs, hp, hi⟩
        · simp_all [linkFlaw?, isIntact]
      · simp [linkFlaw?, hs, hp] at h
    · simp [linkFlaw?, hs] at h
  · rintro ⟨rfl, rfl, hi⟩
    simp [linkFlaw?, isIntact, hi]

lemma Event.chained_follows (seq : UInt64) (stamp : Stamp) (kind : EventKind)
    (previous : Digest) : (chained seq stamp kind previous).Follows seq previous :=
  ⟨rfl, rfl, rfl⟩

lemma verifyFrom_cons_iff {seq : UInt64} {previous : Digest} {e : Event} {es : List Event} :
    verifyFrom seq previous (e :: es) = .ok () ↔
      e.Follows seq previous ∧ verifyFrom (seq + 1) e.digest es = .ok () := by
  rw [← Event.linkFlaw?_eq_none_iff, verifyFrom]
  cases e.linkFlaw? seq previous <;> simp

lemma verifyFrom_append (seq : UInt64) (previous : Digest) (es fs : List Event) :
    verifyFrom seq previous (es ++ fs) = verifyFrom seq previous es >>= fun _ =>
      verifyFrom (seq + es.length.toUInt64) (digestAfter previous es) fs := by
  induction es generalizing seq previous with
  | nil => simp [verifyFrom, bind, Except.bind]
  | cons e es ih =>
    have hseq : seq + 1 + es.length.toUInt64 = seq + (es.length + 1).toUInt64 := by
      rw [UInt64.add_assoc, UInt64.add_comm 1]
      simp
    rw [List.cons_append, verifyFrom, verifyFrom]
    cases e.linkFlaw? seq previous with
    | some flaw => rfl
    | none => rw [ih, digestAfter_cons, List.length_cons, hseq]

lemma verifyFrom_append_iff {seq : UInt64} {previous : Digest} {es fs : List Event} :
    verifyFrom seq previous (es ++ fs) = .ok () ↔
      verifyFrom seq previous es = .ok () ∧
        verifyFrom (seq + es.length.toUInt64) (digestAfter previous es) fs = .ok () := by
  rw [verifyFrom_append]
  cases verifyFrom seq previous es <;> simp [bind, Except.bind]

lemma verifyChain_concat_iff {es : List Event} {e : Event} :
    verifyChain (es ++ [e]) = .ok () ↔
      verifyChain es = .ok () ∧ e.Follows es.length.toUInt64 (digestAfter genesis es) := by
  rw [verifyChain, verifyFrom_append_iff, verifyFrom_cons_iff, UInt64.zero_add]
  simp [verifyChain, verifyFrom]

end Depository
