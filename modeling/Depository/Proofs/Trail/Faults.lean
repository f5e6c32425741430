import Depository.Proofs.Trail.Chain
import Mathlib.Algebra.Group.Nat.Defs
import Mathlib.Data.List.Induction
import Mathlib.Data.Nat.Find

namespace Depository

def linkAt (es : List Event) : Nat → Digest
  | 0 => genesis
  | i + 1 => (es[i]?.map Event.digest).getD genesis

def Linked (es : List Event) : Prop :=
  ∀ (i : Nat) (e : Event), es[i]? = some e → e.Follows i.toUInt64 (linkAt es i)

structure FirstAstray (es : List Event) (i : Nat) (e : Event) : Prop where
  here : es[i]? = some e
  before : ∀ j < i, ∀ x : Event, es[j]? = some x → x.Follows j.toUInt64 (linkAt es j)
  astray : ¬ e.Follows i.toUInt64 (linkAt es i)

def Event.fault (e : Event) (i : Nat) (previous : Digest) : String :=
  if e.seq ≠ i.toUInt64 then s!"expected seq {i}"
  else if e.previous ≠ previous then "prev_digest does not link to preceding event"
  else s!"digest {Hex.toText e.digest.toList} does not match contents"

variable {es fs : List Event} {e : Event} {i : Nat}

lemma linkAt_congr (h : ∀ j < i, fs[j]? = es[j]?) : linkAt fs i = linkAt es i := by
  cases i with
  | zero => rfl
  | succ i => rw [linkAt, linkAt, h i (Nat.lt_succ_self i)]

lemma linkAt_eq_digestAfter (h : i ≤ es.length) :
    linkAt es i = digestAfter genesis (es.take i) := by
  cases i with
  | zero => rfl
  | succ i =>
    have hi : i < es.length := h
    simp [linkAt, digestAfter, List.getLast?_take, hi]

lemma linked_concat_iff :
    Linked (es ++ [e]) ↔ Linked es ∧ e.Follows es.length.toUInt64 (digestAfter genesis es) := by
  have hbelow : ∀ j < es.length, (es ++ [e])[j]? = es[j]? := fun j hj =>
    List.getElem?_append_left hj
  have hlink : ∀ j ≤ es.length, linkAt (es ++ [e]) j = linkAt es j := fun j hj =>
    linkAt_congr fun k hk => hbelow k (Nat.lt_of_lt_of_le hk hj)
  have hlast : linkAt (es ++ [e]) es.length = digestAfter genesis es := by
    rw [hlink _ (Nat.le_refl _), linkAt_eq_digestAfter (Nat.le_refl _), List.take_length]
  constructor
  · intro h
    refine ⟨fun j x hx => ?_, hlast ▸ h es.length e (by simp)⟩
    have hj : j < es.length := (List.getElem?_eq_some_iff.mp hx).1
    rw [← hlink j (Nat.le_of_lt hj)]
    exact h j x ((hbelow j hj).trans hx)
  · rintro ⟨hes, he⟩ j x hx
    rcases Nat.lt_or_ge j es.length with hj | hj
    · rw [hlink j (Nat.le_of_lt hj)]
      exact hes j x ((hbelow j hj).symm.trans hx)
    · have hlt : j < es.length + 1 := by simpa using (List.getElem?_eq_some_iff.mp hx).1
      obtain rfl : j = es.length := by omega
      obtain rfl : e = x := by simpa using hx
      exact hlast.symm ▸ he

lemma verifyChain_eq_ok_iff : verifyChain es = .ok () ↔ Linked es := by
  induction es using List.reverseRecOn with
  | nil => simp [verifyChain, verifyFrom, Linked]
  | append_singleton es e ih => rw [verifyChain_concat_iff, linked_concat_iff, ih]

lemma Event.message_of_linkFlaw? {previous : Digest} {flaw : LinkFlaw} (hi : i < 2 ^ 64)
    (h : e.linkFlaw? i.toUInt64 previous = some flaw) : flaw.message = e.fault i previous := by
  have hnumber : (LinkFlaw.seq i.toUInt64).message = s!"expected seq {i}" := by
    have htext : toString i.toUInt64 = toString i.toUInt64.toNat := rfl
    have hnat : i.toUInt64.toNat = i := UInt64.toNat_ofNat_of_lt' hi
    rw [LinkFlaw.message, htext, hnat]
  simp only [linkFlaw?] at h
  simp only [fault]
  split_ifs at h ⊢ with hseq hprevious hintact
  · exact Option.some.inj h ▸ hnumber
  · exact Option.some.inj h ▸ rfl
  · exact Option.some.inj h ▸ rfl

lemma FirstAstray.verifyChain_eq (h : FirstAstray es i e) (hi : i < 2 ^ 64) :
    verifyChain es = .error (.chainBroken e.seq (e.fault i (linkAt es i))) := by
  obtain ⟨hlt, he⟩ := List.getElem?_eq_some_iff.mp h.here
  have hlength : (es.take i).length = i := List.length_take_of_le (Nat.le_of_lt hlt)
  -- What comes before is a chain, so the check arrives at the event with its number and its link.
  have hbefore : verifyChain (es.take i) = .ok () := by
    refine verifyChain_eq_ok_iff.mpr fun j x hx => ?_
    have hj : j < i := hlength ▸ (List.getElem?_eq_some_iff.mp hx).1
    have htake : ∀ k < i, (es.take i)[k]? = es[k]? := fun k hk => List.getElem?_take_of_lt hk
    rw [linkAt_congr fun k hk => htake k (Nat.lt_trans hk hj)]
    exact h.before j hj x ((htake j hj).symm.trans hx)
  obtain ⟨flaw, hflaw⟩ : ∃ flaw, e.linkFlaw? i.toUInt64 (linkAt es i) = some flaw :=
    Option.ne_none_iff_exists'.mp fun hnone => h.astray (Event.linkFlaw?_eq_none_iff.mp hnone)
  have hstop : verifyFrom i.toUInt64 (linkAt es i) (e :: es.drop (i + 1)) =
      .error (.chainBroken e.seq flaw.message) := by
    rw [verifyFrom, hflaw]
  have hsplit : es = es.take i ++ e :: es.drop (i + 1) := by
    rw [← he, List.getElem_cons_drop, List.take_append_drop]
  calc verifyChain es
      = verifyFrom 0 genesis (es.take i ++ e :: es.drop (i + 1)) := congrArg verifyChain hsplit
    _ = verifyFrom (0 + i.toUInt64) (linkAt es i) (e :: es.drop (i + 1)) := by
      rw [verifyFrom_append, hlength, ← linkAt_eq_digestAfter (Nat.le_of_lt hlt)]
      exact congrArg (· >>= _) hbefore
    _ = .error (.chainBroken e.seq (e.fault i (linkAt es i))) := by
      rw [UInt64.zero_add, hstop, Event.message_of_linkFlaw? hi hflaw]

lemma exists_firstAstray (h : ¬ Linked es) : ∃ i e, FirstAstray es i e := by
  classical
  have hex : ∃ i, ∃ e : Event, es[i]? = some e ∧ ¬ e.Follows i.toUInt64 (linkAt es i) := by
    simpa only [Linked, not_forall, exists_prop] using h
  obtain ⟨e, he, hastray⟩ := Nat.find_spec hex
  refine ⟨Nat.find hex, e, he, fun j hj x hx => ?_, hastray⟩
  by_contra hne
  exact Nat.find_min hex hj ⟨x, hx, hne⟩

lemma toUInt64_ne {j : Nat} (hi : i < 2 ^ 64) (hj : j < 2 ^ 64) (h : i ≠ j) :
    i.toUInt64 ≠ j.toUInt64 := by
  intro he
  have hnat : i.toUInt64.toNat = j.toUInt64.toNat := congrArg UInt64.toNat he
  have hinat : i.toUInt64.toNat = i := UInt64.toNat_ofNat_of_lt' hi
  have hjnat : j.toUInt64.toNat = j := UInt64.toNat_ofNat_of_lt' hj
  exact h (hinat.symm.trans (hnat.trans hjnat))

lemma Linked.verifyChain_misplaced (h : Linked es) (hfs : ∀ j < i, fs[j]? = es[j]?)
    (he : fs[i]? = some e) (hi : i < 2 ^ 64) (hseq : e.seq ≠ i.toUInt64) :
    verifyChain fs = .error (.chainBroken e.seq s!"expected seq {i}") := by
  have hfirst : FirstAstray fs i e := by
    refine ⟨he, fun j hj x hx => ?_, fun hfollows => hseq hfollows.seq⟩
    rw [linkAt_congr fun k hk => hfs k (Nat.lt_trans hk hj)]
    exact h j x ((hfs j hj).symm.trans hx)
  rw [hfirst.verifyChain_eq hi, Event.fault, if_pos hseq]

section Chain

variable (h : Linked es) (hlength : es.length < 2 ^ 64)

include h hlength

lemma Linked.verifyChain_eraseIdx (hi : i + 1 < es.length) :
    verifyChain (es.eraseIdx i) = .error (.chainBroken (i + 1).toUInt64 s!"expected seq {i}") := by
  have hnext : es[i + 1]? = some es[i + 1] := List.getElem?_eq_getElem hi
  have hseq : es[i + 1].seq = (i + 1).toUInt64 := (h _ _ hnext).seq
  rw [← hseq]
  refine h.verifyChain_misplaced (fun j hj => List.getElem?_eraseIdx_of_lt hj)
    ((List.getElem?_eraseIdx_of_ge (Nat.le_refl i)).trans hnext) (by omega) ?_
  rw [hseq]
  exact toUInt64_ne (by omega) (by omega) (by omega)

lemma Linked.verifyChain_insertIdx {k : Nat} (he : es[k]? = some e) (hi : i ≤ es.length) :
    verifyChain (es.insertIdx i e) = .error (.chainBroken e.seq
      s!"expected seq {if i = k then k + 1 else i}") := by
  have hk : k < es.length := (List.getElem?_eq_some_iff.mp he).1
  have hseq : e.seq = k.toUInt64 := (h k e he).seq
  have hbelow : ∀ j < i, (es.insertIdx i e)[j]? = es[j]? := fun j hj =>
    List.getElem?_insertIdx_of_lt hj
  have hself : (es.insertIdx i e)[i]? = some e := by
    simp [List.getElem?_insertIdx_self, hi]
  by_cases hik : i = k
  · -- The copy stands where its number is due, so it is the event behind it that comes late.
    subst hik
    rw [if_pos rfl]
    refine h.verifyChain_misplaced (fun j hj => ?_) ?_ (by omega) ?_
    · rcases Nat.lt_or_eq_of_le (Nat.le_of_lt_succ hj) with hj | rfl
      · exact hbelow j hj
      · exact hself.trans he.symm
    · exact (List.getElem?_insertIdx_of_gt (Nat.lt_succ_self i)).trans he
    · rw [hseq]
      exact toUInt64_ne (by omega) (by omega) (by omega)
  · rw [if_neg hik]
    refine h.verifyChain_misplaced hbelow hself (by omega) ?_
    rw [hseq]
    exact toUInt64_ne (by omega) (by omega) (Ne.symm hik)

end Chain

/-- A chain is accepted just if each event has its place. Otherwise the first event that has not is
named, with the first of its faults. An event that is taken out leaves a gap, unless it is the last,
and a copy that is put in stands in the way. -/
theorem verifyChain_decides (es : List Event) (hlength : es.length < 2 ^ 64) :
    (verifyChain es = .ok () ↔ Linked es) ∧
      (∀ f, verifyChain es = .error f ↔ ∃ i e, FirstAstray es i e ∧
        f = .chainBroken e.seq (e.fault i (linkAt es i))) ∧
      (verifyChain es = .ok () →
        (∀ i, i + 1 < es.length → verifyChain (es.eraseIdx i) =
          .error (.chainBroken (i + 1).toUInt64 s!"expected seq {i}")) ∧
        ∀ (k : Nat) (e : Event), es[k]? = some e → ∀ i ≤ es.length,
          verifyChain (es.insertIdx i e) =
            .error (.chainBroken e.seq s!"expected seq {if i = k then k + 1 else i}")) := by
  have hbound : ∀ {i e}, FirstAstray es i e → i < 2 ^ 64 := fun h =>
    Nat.lt_trans (List.getElem?_eq_some_iff.mp h.here).1 hlength
  refine ⟨verifyChain_eq_ok_iff, fun f => ⟨fun hf => ?_, ?_⟩, fun hok => ?_⟩
  · have hastray : ¬ Linked es := fun h => by simp [verifyChain_eq_ok_iff.mpr h] at hf
    obtain ⟨i, e, he⟩ := exists_firstAstray hastray
    rw [he.verifyChain_eq (hbound he)] at hf
    exact ⟨i, e, he, (Except.error.inj hf).symm⟩
  · rintro ⟨i, e, he, rfl⟩
    exact he.verifyChain_eq (hbound he)
  · have h := verifyChain_eq_ok_iff.mp hok
    exact ⟨fun i hi => h.verifyChain_eraseIdx hlength hi,
      fun k e he i hi => h.verifyChain_insertIdx hlength he hi⟩

def threePayouts : List Event :=
  let payout (seq : UInt64) := Event.chained seq (.ofSeconds 0) (.withdrawn ⟨"bob"⟩ seq)
  [payout 0 genesis, payout 1 (payout 0 genesis).digest,
    payout 2 (payout 1 (payout 0 genesis).digest).digest]

theorem verifyChain_decides_gap :
    threePayouts.length < 2 ^ 64 ∧ verifyChain threePayouts = .ok () ∧
      verifyChain (threePayouts.eraseIdx 1) = .error (.chainBroken 2 "expected seq 1") ∧
      verifyChain (threePayouts.insertIdx 1 threePayouts[0]) =
        .error (.chainBroken 0 "expected seq 1") := by
  have hok : verifyChain threePayouts = .ok () := by
    refine verifyFrom_cons_iff.mpr ⟨Event.chained_follows .., ?_⟩
    refine verifyFrom_cons_iff.mpr ⟨Event.chained_follows .., ?_⟩
    exact verifyFrom_cons_iff.mpr ⟨Event.chained_follows .., rfl⟩
  have hlength : threePayouts.length < 2 ^ 64 := by decide
  obtain ⟨hgap, hcopy⟩ := (verifyChain_decides threePayouts hlength).2.2 hok
  exact ⟨hlength, hok, hgap 1 (by decide), hcopy 0 _ rfl 1 (by decide)⟩

end Depository
