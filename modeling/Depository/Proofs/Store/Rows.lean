import Depository.Store.Table
import Mathlib.Data.List.Basic

namespace Depository.Store

open Std

class Numbering (κ : Type) [Ord κ] where
  ofSeq : UInt64 → κ
  compare_ofSeq (a b : UInt64) : compare (ofSeq a) (ofSeq b) = compare a b

instance : Numbering UInt64 := ⟨id, fun _ _ => rfl⟩

namespace Schema

variable {ρ κ : Type} (s : Schema ρ κ)

def Ascending [Ord κ] (rows : List ρ) : Prop :=
  rows.Pairwise fun a b => compare (s.key a) (s.key b) = .lt

/-- The rows have the numbers below the next free one, in order. -/
def Serial [Ord κ] [Numbering κ] (rows : List ρ) (next : UInt64) : Prop :=
  rows.map s.key = (List.range next.toNat).map fun i => Numbering.ofSeq i.toUInt64

def Below [Ord κ] [Numbering κ] (rows : List ρ) (next : UInt64) : Prop :=
  ∀ r ∈ rows, compare (s.key r) (Numbering.ofSeq next) = .lt

variable {s}

section Lookup

variable [DecidableEq κ]

@[simp] lemma find?_nil (k : κ) : s.find? k [] = none := rfl

lemma find?_cons (k : κ) (r : ρ) (rows : List ρ) :
    s.find? k (r :: rows) = if s.key r = k then some r else s.find? k rows := by
  by_cases h : s.key r = k <;> simp [find?, h]

lemma find?_append (k : κ) (xs ys : List ρ) :
    s.find? k (xs ++ ys) = (s.find? k xs <|> s.find? k ys) := by
  simp [find?, List.find?_append]

lemma find?_eq_none_iff {k : κ} {rows : List ρ} :
    s.find? k rows = none ↔ ∀ r ∈ rows, s.key r ≠ k := by
  simp [find?]

lemma mem_of_find? {k : κ} {r : ρ} {rows : List ρ} (h : s.find? k rows = some r) :
    r ∈ rows ∧ s.key r = k :=
  ⟨List.mem_of_find?_eq_some h, by simpa using List.find?_some h⟩

variable [Ord κ] [LawfulEqOrd κ]

lemma find?_put (k : κ) (r : ρ) (rows : List ρ) :
    s.find? k (s.put r rows) = if s.key r = k then some r else s.find? k rows := by
  induction rows with
  | nil => rw [put, find?_cons]
  | cons t ts ih =>
    rw [put]
    cases hc : compare (s.key r) (s.key t) with
    | lt => exact find?_cons k r (t :: ts)
    | eq =>
      have he : s.key r = s.key t := LawfulEqOrd.eq_of_compare hc
      by_cases h : s.key r = k <;> simp_all [find?_cons]
    | gt =>
      have hne : s.key r ≠ s.key t := fun he => by simp [he] at hc
      by_cases h : s.key t = k
      · have hr : s.key r ≠ k := fun hr => hne (hr.trans h.symm)
        simp [find?_cons, h, hr]
      · simp [find?_cons, h, ih]

end Lookup

section Order

variable [Ord κ]

lemma mem_put {r t : ρ} {rows : List ρ} (h : t ∈ s.put r rows) : t = r ∨ t ∈ rows := by
  induction rows with
  | nil => simpa [put] using h
  | cons x xs ih =>
    rw [put] at h
    cases hc : compare (s.key r) (s.key x) with
    | lt => simpa [hc] using h
    | eq =>
      have hm : t = r ∨ t ∈ xs := by simpa [hc] using h
      exact hm.imp_right (List.mem_cons_of_mem x)
    | gt =>
      have hm : t = x ∨ t ∈ s.put r xs := by simpa [hc] using h
      rcases hm with rfl | hm
      · exact .inr List.mem_cons_self
      · exact (ih hm).imp_right (List.mem_cons_of_mem x)

lemma put_of_forall_lt [OrientedOrd κ] {r : ρ} {rows : List ρ}
    (h : ∀ t ∈ rows, compare (s.key t) (s.key r) = .lt) : s.put r rows = rows ++ [r] := by
  induction rows with
  | nil => rfl
  | cons t ts ih =>
    have ht : compare (s.key r) (s.key t) = .gt := OrientedCmp.gt_of_lt (h t List.mem_cons_self)
    rw [put, ht, ih fun x hx => h x (List.mem_cons_of_mem t hx), List.cons_append]

variable [LawfulEqOrd κ]

lemma Ascending.nodup {rows : List ρ} (h : s.Ascending rows) : rows.Nodup :=
  h.imp fun {a b} hlt heq => by simp [heq] at hlt

section Found

variable [DecidableEq κ]

lemma Ascending.find?_eq_some_iff {rows : List ρ} (h : s.Ascending rows) {k : κ} {r : ρ} :
    s.find? k rows = some r ↔ r ∈ rows ∧ s.key r = k := by
  refine ⟨mem_of_find?, ?_⟩
  rintro ⟨hr, rfl⟩
  induction rows with
  | nil => simp at hr
  | cons t ts ih =>
    obtain ⟨ht, hts⟩ := List.pairwise_cons.mp h
    rw [find?_cons]
    rcases List.mem_cons.mp hr with rfl | hr
    · simp
    · have hne : s.key t ≠ s.key r := fun he => by
        have hlt := ht r hr
        simp [he] at hlt
      rw [if_neg hne, ih hts hr]

lemma Ascending.eq_of_key_eq {rows : List ρ} (h : s.Ascending rows) {r x : ρ} (hr : r ∈ rows)
    (hx : x ∈ rows) (hk : s.key r = s.key x) : r = x := by
  have hfind := h.find?_eq_some_iff.mpr ⟨hr, hk⟩
  rw [h.find?_eq_some_iff.mpr ⟨hx, rfl⟩] at hfind
  exact (Option.some.inj hfind).symm

lemma find?_foldl_put {ws : List ρ} (h : s.Ascending ws) (k : κ) (rows : List ρ) :
    s.find? k (ws.foldl (fun rows r => s.put r rows) rows) =
      (s.find? k ws <|> s.find? k rows) := by
  induction ws generalizing rows with
  | nil => simp
  | cons w ws ih =>
    obtain ⟨hw, hws⟩ := List.pairwise_cons.mp h
    rw [List.foldl_cons, ih hws, find?_put, find?_cons]
    by_cases hk : s.key w = k
    · have hnone : s.find? k ws = none := find?_eq_none_iff.mpr fun r hr he => by
        have hlt := hw r hr
        simp [hk, he] at hlt
      simp [hk, hnone]
    · simp [hk]

end Found

variable [TransOrd κ]

lemma Ascending.put {rows : List ρ} (h : s.Ascending rows) (r : ρ) :
    s.Ascending (s.put r rows) := by
  induction rows with
  | nil => simp [Ascending, Schema.put]
  | cons t ts ih =>
    obtain ⟨ht, hts⟩ := List.pairwise_cons.mp h
    rw [Schema.put]
    cases hc : compare (s.key r) (s.key t) with
    | lt =>
      refine List.pairwise_cons.mpr ⟨fun x hx => ?_, h⟩
      rcases List.mem_cons.mp hx with rfl | hx
      · exact hc
      · exact TransCmp.lt_trans hc (ht x hx)
    | eq =>
      have he : s.key r = s.key t := LawfulEqOrd.eq_of_compare hc
      exact List.pairwise_cons.mpr ⟨fun x hx => he ▸ ht x hx, hts⟩
    | gt =>
      refine List.pairwise_cons.mpr ⟨fun x hx => ?_, ih hts⟩
      rcases mem_put hx with rfl | hx
      · exact OrientedCmp.lt_of_gt hc
      · exact ht x hx

lemma Ascending.put_eq_map [DecidableEq κ] {rows : List ρ} (h : s.Ascending rows) {x r : ρ}
    (hx : x ∈ rows) (hk : s.key x = s.key r) :
    s.put r rows = rows.map fun y => if s.key y = s.key r then r else y := by
  induction rows with
  | nil => cases hx
  | cons t ts ih =>
    obtain ⟨ht, hts⟩ := List.pairwise_cons.mp h
    rw [Schema.put, List.map_cons]
    rcases List.mem_cons.mp hx with rfl | hx
    · -- The row at the head is replaced, and no other row has its key.
      have hrest : ∀ y ∈ ts, (if s.key y = s.key r then r else y) = y := by
        intro y hy
        refine if_neg fun he => ?_
        have hlt := ht y hy
        simp [hk, he] at hlt
      rw [if_pos hk, List.map_congr_left hrest, List.map_id', hk, compare_self]
    · have hlt : compare (s.key t) (s.key r) = .lt := hk ▸ ht x hx
      have hne : s.key t ≠ s.key r := fun he => by simp [he] at hlt
      rw [if_neg hne, OrientedCmp.gt_of_lt hlt, ih hts hx]

lemma Ascending.foldl_put {ws rows : List ρ} (h : s.Ascending rows) :
    s.Ascending (ws.foldl (fun rows r => s.put r rows) rows) := by
  induction ws generalizing rows with
  | nil => exact h
  | cons w ws ih => exact ih (h.put w)

lemma Ascending.mem_foldl_put_iff [DecidableEq κ] {ws rows : List ρ} (h : s.Ascending rows)
    (hw : s.Ascending ws) {r : ρ} : r ∈ ws.foldl (fun rows r => s.put r rows) rows ↔
      r ∈ ws ∨ r ∈ rows ∧ ∀ w ∈ ws, s.key w ≠ s.key r := by
  have hfind : r ∈ ws.foldl (fun rows r => s.put r rows) rows ↔
      s.find? (s.key r) (ws.foldl (fun rows r => s.put r rows) rows) = some r := by
    rw [h.foldl_put.find?_eq_some_iff, and_iff_left rfl]
  rw [hfind, find?_foldl_put hw]
  cases hf : s.find? (s.key r) ws with
  | none =>
    have hfree := find?_eq_none_iff.mp hf
    have hnot : r ∉ ws := fun hr => hfree r hr rfl
    simpa [hnot, h.find?_eq_some_iff] using fun _ => hfree
  | some w =>
    obtain ⟨hmem, hkey⟩ := hw.find?_eq_some_iff.mp hf
    constructor
    · intro he
      obtain rfl := Option.some.inj he
      exact .inl hmem
    · rintro (hr | ⟨-, hne⟩)
      · exact congrArg some (hw.eq_of_key_eq hmem hr hkey)
      · exact absurd hkey (hne w hmem)

lemma Ascending.ext [DecidableEq κ] {xs ys : List ρ} (hx : s.Ascending xs) (hy : s.Ascending ys)
    (h : ∀ k, s.find? k xs = s.find? k ys) : xs = ys := by
  have hmem : ∀ r, r ∈ xs ↔ r ∈ ys := fun r => by
    have hr := h (s.key r)
    constructor <;> intro hm
    · exact (hy.find?_eq_some_iff.mp (hr ▸ hx.find?_eq_some_iff.mpr ⟨hm, rfl⟩)).1
    · exact (hx.find?_eq_some_iff.mp (hr ▸ hy.find?_eq_some_iff.mpr ⟨hm, rfl⟩)).1
  have hperm : xs.Perm ys := (List.perm_ext_iff_of_nodup hx.nodup hy.nodup).mpr hmem
  refine hperm.eq_of_pairwise (fun a b _ _ hab hba => ?_) hx hy
  exact absurd hba (OrientedCmp.not_lt_of_lt hab)

end Order

section Serial

variable [Ord κ] [Numbering κ] {rows : List ρ} {next : UInt64}

lemma Below.put [OrientedOrd κ] (h : s.Below rows next) {r : ρ}
    (hr : s.key r = Numbering.ofSeq next) : s.put r rows = rows ++ [r] :=
  put_of_forall_lt fun t ht => hr ▸ h t ht

lemma Below.find?_next [DecidableEq κ] [LawfulEqOrd κ] (h : s.Below rows next) :
    s.find? (Numbering.ofSeq next) rows = none :=
  find?_eq_none_iff.mpr fun t ht he => by
    have hlt := h t ht
    simp [he] at hlt

lemma toNat_succ (hroom : next.toNat + 1 < UInt64.size) : (next + 1).toNat = next.toNat + 1 := by
  rw [UInt64.toNat_add]
  exact Nat.mod_eq_of_lt hroom

lemma ofSeq_lt_succ (hroom : next.toNat + 1 < UInt64.size) :
    compare (Numbering.ofSeq next : κ) (Numbering.ofSeq (next + 1)) = .lt := by
  rw [Numbering.compare_ofSeq, Std.compare_eq_lt, UInt64.lt_iff_toNat_lt, toNat_succ hroom]
  exact Nat.lt_succ_self _

lemma Below.skip [TransOrd κ] (h : s.Below rows next) (hroom : next.toNat + 1 < UInt64.size) :
    s.Below rows (next + 1) :=
  fun t ht => TransCmp.lt_trans (h t ht) (ofSeq_lt_succ hroom)

lemma Below.append [TransOrd κ] (h : s.Below rows next) {r : ρ}
    (hr : s.key r = Numbering.ofSeq next) (hroom : next.toNat + 1 < UInt64.size) :
    s.Below (rows ++ [r]) (next + 1) := by
  intro t ht
  rcases List.mem_append.mp ht with ht | ht
  · exact h.skip hroom t ht
  · obtain rfl := List.mem_singleton.mp ht
    exact hr ▸ ofSeq_lt_succ hroom

lemma Serial.nil : s.Serial [] 0 := rfl

lemma Serial.length (h : s.Serial rows next) : rows.length = next.toNat := by
  simpa using congrArg List.length h

lemma Serial.key_getElem (h : s.Serial rows next) (i : Nat) (hi : i < rows.length) :
    s.key rows[i] = Numbering.ofSeq i.toUInt64 := by
  have hlen : i < (rows.map s.key).length := by simpa using hi
  have hm := List.getElem_of_eq h hlen
  simpa using hm

lemma Serial.below (h : s.Serial rows next) : s.Below rows next := by
  intro t ht
  obtain ⟨i, hi, rfl⟩ := List.getElem_of_mem ht
  have hn : i < next.toNat := h.length ▸ hi
  have hnat : i.toUInt64.toNat = i := UInt64.toNat_ofNat_of_lt' (Nat.lt_trans hn next.toNat_lt)
  rw [h.key_getElem, Numbering.compare_ofSeq, Std.compare_eq_lt, UInt64.lt_iff_toNat_lt, hnat]
  exact hn

lemma Serial.ascending (h : s.Serial rows next) : s.Ascending rows := by
  refine List.pairwise_iff_getElem.mpr fun i j hi hj hij => ?_
  have hn : j < UInt64.size := Nat.lt_trans (h.length ▸ hj) next.toNat_lt
  have hinat : i.toUInt64.toNat = i := UInt64.toNat_ofNat_of_lt' (Nat.lt_trans hij hn)
  have hjnat : j.toUInt64.toNat = j := UInt64.toNat_ofNat_of_lt' hn
  rw [h.key_getElem, h.key_getElem, Numbering.compare_ofSeq, Std.compare_eq_lt,
    UInt64.lt_iff_toNat_lt, hinat, hjnat]
  exact hij

lemma Serial.put [OrientedOrd κ] (h : s.Serial rows next) {r : ρ}
    (hr : s.key r = Numbering.ofSeq next) : s.put r rows = rows ++ [r] :=
  h.below.put hr

lemma Serial.append (h : s.Serial rows next) {r : ρ} (hr : s.key r = Numbering.ofSeq next)
    (hroom : next.toNat + 1 < UInt64.size) : s.Serial (rows ++ [r]) (next + 1) := by
  rw [Serial, List.map_append, h, toNat_succ hroom, List.range_succ, List.map_append]
  simp [hr]

lemma Serial.find?_next [DecidableEq κ] [LawfulEqOrd κ] (h : s.Serial rows next) :
    s.find? (Numbering.ofSeq next) rows = none :=
  h.below.find?_next

lemma Serial.find?_pred [DecidableEq κ] [LawfulEqOrd κ] (h : s.Serial rows next)
    (hn : next ≠ 0) : s.find? (Numbering.ofSeq (next - 1)) rows = rows.getLast? := by
  have hpos : 0 < next.toNat := Nat.pos_of_ne_zero fun h0 => hn (UInt64.toNat_inj.mp h0)
  have hne : rows ≠ [] := List.ne_nil_of_length_pos (h.length ▸ hpos)
  have hlast : (rows.length - 1).toUInt64 = next - 1 := by
    have hle : (1 : UInt64) ≤ next := UInt64.le_iff_toNat_le.mpr hpos
    rw [← UInt64.toNat_inj, UInt64.toNat_sub_of_le _ _ hle, h.length]
    exact UInt64.toNat_ofNat_of_lt' (Nat.lt_of_le_of_lt (Nat.sub_le _ _) next.toNat_lt)
  rw [List.getLast?_eq_getLast_of_ne_nil hne, h.ascending.find?_eq_some_iff]
  refine ⟨List.getLast_mem hne, ?_⟩
  rw [List.getLast_eq_getElem, h.key_getElem, hlast]

end Serial

end Schema

end Depository.Store
