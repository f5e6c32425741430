import Depository.Event
import Depository.Proofs.Hex
import Depository.Proofs.Json.Written
import Mathlib.Algebra.Group.Nat.Defs

namespace Depository

open Json

lemma Account.distinct_form : Account.form.Distinct :=
  Scalar.distinct_text.imap (Function.LeftInverse.injective (g := Account.mk) fun _ => rfl)

lemma OrderId.distinct_form : OrderId.form.Distinct :=
  Scalar.distinct_u64.imap (Function.LeftInverse.injective (g := OrderId.mk) fun _ => rfl)

lemma CheckpointId.distinct_form : CheckpointId.form.Distinct :=
  Scalar.distinct_u64.imap (Function.LeftInverse.injective (g := CheckpointId.mk) fun _ => rfl)

lemma Root.distinct_form : Root.form.Distinct :=
  Scalar.distinct_text.refine
    (Hex.toText_injective.comp (Function.LeftInverse.injective (g := Root.mk) fun _ => rfl))

namespace EventKind

def tag : EventKind → String
  | deposited .. => "deposited"
  | debited .. => "debited"
  | orderPlaced .. => "order_placed"
  | checkpointRecorded .. => "checkpoint_recorded"
  | withdrawn .. => "withdrawn"
  | ownershipTransferred .. => "ownership_transferred"

lemma distinct_movementFields : movementFields.Distinct :=
  ⟨Account.distinct_form, Scalar.distinct_u64, Scalar.distinct_u64, trivial⟩

lemma distinct_orderFields : orderFields.Distinct :=
  ⟨OrderId.distinct_form, Account.distinct_form, Scalar.distinct_u64, Scalar.distinct_u64,
    Scalar.distinct_u64, Scalar.distinct_u64, trivial⟩

lemma distinct_checkpointFields : checkpointFields.Distinct :=
  ⟨CheckpointId.distinct_form, Root.distinct_form, trivial⟩

lemma distinct_payoutFields : payoutFields.Distinct :=
  ⟨Account.distinct_form, Scalar.distinct_u64, trivial⟩

lemma distinct_successionFields : successionFields.Distinct :=
  ⟨Account.distinct_form, Account.distinct_form, trivial⟩

lemma tag_eq_of_write_eq {a b : EventKind} (h : a.write = b.write) : a.tag = b.tag := by
  cases a <;> cases b <;> exact tagged.tag_eq_of_writeAs_eq h

lemma write_injective {a b : EventKind} (h : a.write = b.write) : a = b := by
  have htag := tag_eq_of_write_eq h
  cases a with
  | deposited =>
    cases b with
    | deposited => simpa using tagged.eq_of_writeAs_eq distinct_movementFields h
    | _ => simp [tag] at htag
  | debited =>
    cases b with
    | debited => simpa using tagged.eq_of_writeAs_eq distinct_movementFields h
    | _ => simp [tag] at htag
  | orderPlaced =>
    cases b with
    | orderPlaced => simpa using tagged.eq_of_writeAs_eq distinct_orderFields h
    | _ => simp [tag] at htag
  | checkpointRecorded =>
    cases b with
    | checkpointRecorded => simpa using tagged.eq_of_writeAs_eq distinct_checkpointFields h
    | _ => simp [tag] at htag
  | withdrawn =>
    cases b with
    | withdrawn => simpa using tagged.eq_of_writeAs_eq distinct_payoutFields h
    | _ => simp [tag] at htag
  | ownershipTransferred =>
    cases b with
    | ownershipTransferred => simpa using tagged.eq_of_writeAs_eq distinct_successionFields h
    | _ => simp [tag] at htag

end EventKind

lemma length_littleEndian (n : UInt64) : (littleEndian n).length = 8 := by
  simp [littleEndian]

lemma toNat_byte (n : UInt64) {i : Nat} (hi : i < 8) :
    ((n >>> (8 * i).toUInt64).toUInt8).toNat = n.toNat / 2 ^ (8 * i) % 2 ^ 8 := by
  have hsmall : 8 * i < 64 := by omega
  have hshift : ((8 * i).toUInt64).toNat = 8 * i :=
    UInt64.toNat_ofNat_of_lt (Nat.lt_of_lt_of_le hsmall (by decide))
  rw [UInt64.toNat_toUInt8, UInt64.toNat_shiftRight, hshift, Nat.mod_eq_of_lt hsmall,
    Nat.shiftRight_eq_div_pow]

lemma mod_eq_of_bytes_eq {m n k : Nat}
    (h : ∀ i < k, m / 2 ^ (8 * i) % 2 ^ 8 = n / 2 ^ (8 * i) % 2 ^ 8) :
    m % 2 ^ (8 * k) = n % 2 ^ (8 * k) := by
  induction k with
  | zero => simp [Nat.mod_one]
  | succ k ih =>
    have hlow := ih fun i hi => h i (Nat.lt_succ_of_lt hi)
    rw [Nat.mul_succ, Nat.pow_add, Nat.mod_mul, Nat.mod_mul, hlow, h k (Nat.lt_succ_self k)]

lemma littleEndian_injective {m n : UInt64} (h : littleEndian m = littleEndian n) : m = n := by
  have hmod : m.toNat % 2 ^ (8 * 8) = n.toNat % 2 ^ (8 * 8) := by
    refine mod_eq_of_bytes_eq fun i hi => ?_
    have hget : (m >>> (8 * i).toUInt64).toUInt8 = (n >>> (8 * i).toUInt64).toUInt8 := by
      have hi' := List.getElem_of_eq h (i := i) (by simpa [littleEndian] using hi)
      simpa [littleEndian] using hi'
    rw [← toNat_byte m hi, ← toNat_byte n hi, hget]
  rw [Nat.mod_eq_of_lt m.toNat_lt, Nat.mod_eq_of_lt n.toNat_lt] at hmod
  exact UInt64.toNat_inj.mp hmod

lemma eventBytes_injective {seq seq' : UInt64} {previous previous' : Digest}
    {kind kind' : EventKind} (h : eventBytes seq previous kind = eventBytes seq' previous' kind') :
    seq = seq' ∧ previous = previous' ∧ kind = kind' := by
  simp only [eventBytes, List.append_assoc] at h
  have hbody := List.append_cancel_left h
  obtain ⟨hseq, hrest⟩ := List.append_inj hbody (by rw [length_littleEndian, length_littleEndian])
  obtain ⟨hprevious, hkind⟩ := List.append_inj hrest (by simp)
  exact ⟨littleEndian_injective hseq, Vector.toList_inj.mp hprevious,
    EventKind.write_injective (Text.utf8_injective hkind)⟩

end Depository
