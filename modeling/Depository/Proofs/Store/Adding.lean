import Depository.Proofs.Store.Backlog
import Mathlib.Data.List.Nodup

namespace Depository.Store

open Std

variable {ρ κ : Type} {s : Schema ρ κ}

lemma Overlay.next_le_of_allocate {o o' : Overlay s} {seq : UInt64}
    (h : o.allocate = .ok (seq, o')) :
    o.nextSeq ≤ o'.nextSeq ∧ o'.base = o.base ∧ o'.writes = o.writes ∧ o'.claims = o.claims := by
  rw [allocate] at h
  split at h
  case isTrue hroom =>
    obtain ⟨rfl, rfl⟩ := Prod.mk.inj (Except.ok.inj h)
    refine ⟨?_, rfl, rfl, rfl⟩
    change o.nextSeq ≤ o.nextSeq + 1
    rw [UInt64.le_iff_toNat_le, Schema.toNat_succ hroom]
    exact Nat.le_succ _
  case isFalse => cases h

lemma Overlay.Claimed.allocate [Ord κ] {index : UniqueIndex ρ} {o o' : Overlay s}
    (h : o.Claimed index) {seq : UInt64} (ho : o.allocate = .ok (seq, o')) : o'.Claimed index := by
  obtain ⟨-, -, hwrites, hclaims⟩ := next_le_of_allocate ho
  exact ⟨hwrites ▸ h.writes, hwrites ▸ hclaims ▸ h.claims⟩

variable [DecidableEq κ] [Ord κ]

/-- Rows are staged only under keys that are free in the table, and no number is given out again. -/
structure Overlay.Adds (o : Overlay s) (t : Table s) : Prop where
  base : o.base = t
  next : t.nextSeq ≤ o.nextSeq
  writes : s.Ascending o.writes
  fresh : ∀ r ∈ o.writes, t.get? (s.key r) = none

namespace Overlay

variable {o o' : Overlay s} {t : Table s} {r : ρ}

lemma Adds.begin (t : Table s) : (begin t).Adds t :=
  ⟨rfl, UInt64.le_refl _, List.Pairwise.nil, by simp [Overlay.begin]⟩

lemma Adds.allocate (h : o.Adds t) {seq : UInt64} (ho : o.allocate = .ok (seq, o')) :
    o'.Adds t := by
  obtain ⟨hnext, hbase, hwrites, -⟩ := next_le_of_allocate ho
  exact ⟨hbase.trans h.base, UInt64.le_trans h.next hnext, hwrites ▸ h.writes, hwrites ▸ h.fresh⟩

lemma get?_of_insert (h : o.insert r = .ok o') : o.get? (s.key r) = none := by
  rw [insert] at h
  cases hr : o.get? (s.key r) with
  | some x => simp [hr] at h
  | none => rfl

lemma eq_stage_of_upsert (h : o.upsert r = .ok o') : o' = o.stage r := by
  cases hi : s.index with
  | none => exact (Except.ok.inj ((o.upsert_of_no_index hi r).symm.trans h)).symm
  | some index => exact (upsert_eq_ok hi h).2

lemma Adds.ne_of_mem (h : o.Adds t) {x : ρ} (hx : x ∈ o.writes) (hr : r ∈ t.rows) :
    s.key r ≠ s.key x :=
  Schema.find?_eq_none_iff.mp (h.fresh x hx) r hr

variable [LawfulEqOrd κ] [TransOrd κ]

lemma Adds.insert (h : o.Adds t) (ho : o.insert r = .ok o') : o'.Adds t := by
  have hfree : s.find? (s.key r) o.writes = none ∧ t.get? (s.key r) = none := by
    simpa [Overlay.get?, h.base] using get?_of_insert ho
  obtain rfl := eq_stage_of_upsert (insert_eq_ok ho)
  refine ⟨h.base, h.next, h.writes.put r, fun x hx => ?_⟩
  rcases Schema.mem_put hx with rfl | hx
  · exact hfree.2
  · exact h.fresh x hx

lemma Claimed.insert {index : UniqueIndex ρ} (h : o.Claimed index) (hi : s.index = some index)
    (ho : o.insert r = .ok o') : o'.Claimed index := by
  obtain ⟨hrival, rfl⟩ := upsert_eq_ok hi (insert_eq_ok ho)
  exact h.stage hi hrival

end Overlay

namespace Table

variable {t : Table s} {w : WriteSet s} [LawfulEqOrd κ] [TransOrd κ]
  (ht : s.Ascending t.rows) (hw : s.Ascending w.rows)

include ht hw

lemma mem_apply_iff {r : ρ} : r ∈ (t.apply w).rows ↔
    r ∈ w.rows ∨ r ∈ t.rows ∧ ∀ x ∈ w.rows, s.key x ≠ s.key r :=
  ht.mem_foldl_put_iff hw

lemma keeps_rows_iff : (∀ r ∈ t.rows, r ∈ (t.apply w).rows) ↔
    ∀ x ∈ w.rows, ∀ r ∈ t.rows, s.key r = s.key x → r = x := by
  constructor
  · intro h x hx r hr hk
    rcases (mem_apply_iff ht hw).mp (h r hr) with hstaged | ⟨-, hne⟩
    · exact hw.eq_of_key_eq hstaged hx hk
    · exact absurd hk.symm (hne x hx)
  · intro h r hr
    rw [mem_apply_iff ht hw]
    by_cases hreplaced : ∃ x ∈ w.rows, s.key x = s.key r
    · obtain ⟨x, hx, hk⟩ := hreplaced
      exact .inl (h x hx r hr hk.symm ▸ hx)
    · exact .inr ⟨hr, fun x hx hk => hreplaced ⟨x, hx, hk⟩⟩

lemma nodup_map_apply_iff {β : Type} (f : ρ → β) (hkeep : ∀ r ∈ t.rows, r ∈ (t.apply w).rows)
    (hf : ∀ r ∈ w.rows, ∀ x ∈ w.rows, f r = f x → r = x) :
    ((t.apply w).rows.map f).Nodup ↔
      (t.rows.map f).Nodup ∧ ∀ x ∈ w.rows, ∀ r ∈ t.rows, f r = f x → r = x := by
  have happly : s.Ascending (t.apply w).rows := ht.foldl_put
  have hmem := fun {r} => mem_apply_iff ht hw (r := r)
  rw [List.nodup_map_iff_inj_on happly.nodup, List.nodup_map_iff_inj_on ht.nodup]
  constructor
  · intro h
    exact ⟨fun r hr x hx => h r (hkeep r hr) x (hkeep x hx),
      fun x hx r hr => h r (hkeep r hr) x (hmem.mpr (.inl hx))⟩
  · rintro ⟨hrows, hacross⟩ r hr x hx hk
    rcases hmem.mp hr with hr | ⟨hr, -⟩ <;> rcases hmem.mp hx with hx | ⟨hx, -⟩
    · exact hf r hr x hx hk
    · exact (hacross r hr x hx hk.symm).symm
    · exact hacross x hx r hr hk
    · exact hrows r hr x hx hk

end Table

end Depository.Store
