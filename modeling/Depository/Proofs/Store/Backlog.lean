import Depository.Proofs.Store.Visits

namespace Depository.Store

open Std

variable {ρ κ : Type} {s : Schema ρ κ} {index : UniqueIndex ρ}

structure Backlog {ρ κ : Type} (s : Schema ρ κ) where
  table : Table s := {}
  held : List (WriteSet s) := []

/-- An overlay that serves some accesses and is held, or the application of one that was held. -/
inductive Shift (ρ κ : Type)
  | hold (accesses : List (Access ρ κ))
  | apply (i : Nat)

structure WriteSet.Distinct [Ord κ] (w : WriteSet s) (index : UniqueIndex ρ) : Prop where
  ascending : s.Ascending w.rows
  distinct : ∀ r ∈ w.rows, ∀ x ∈ w.rows, index.key r = index.key x → s.key r = s.key x

structure Overlay.Claimed [Ord κ] (o : Overlay s) (index : UniqueIndex ρ) : Prop where
  writes : s.Ascending o.writes
  claims : ∀ r ∈ o.writes, o.claims.find? (index.key r) = some (s.key r)

section Staged

variable [Ord κ]

lemma Overlay.Claimed.begin (t : Table s) : (Overlay.begin t).Claimed index :=
  ⟨List.Pairwise.nil, by simp [Overlay.begin]⟩

lemma Overlay.Claimed.writeSet {o : Overlay s} (h : o.Claimed index) :
    o.writeSet.Distinct index := by
  refine ⟨h.writes, fun r hr x hx hk => ?_⟩
  have hclaim := h.claims r hr
  rw [hk, h.claims x hx] at hclaim
  exact (Option.some.inj hclaim).symm

lemma WriteSet.Distinct.pairwise [LawfulEqOrd κ] {w : WriteSet s} (h : w.Distinct index) :
    w.rows.Pairwise fun r x => index.key r ≠ index.key x := by
  refine h.ascending.imp_of_mem fun hr hx hlt hk => ?_
  simp [h.distinct _ hr _ hx hk] at hlt

variable [DecidableEq κ] {o : Overlay s}

lemma Overlay.upsert_eq_ok (hi : s.index = some index) {r : ρ} {o' : Overlay s}
    (h : o.upsert r = .ok o') : o.rival? index r = none ∧ o' = o.stage r := by
  simp only [upsert, hi] at h
  cases hr : o.rival? index r with
  | some x => simp [hr] at h
  | none =>
    simp only [hr] at h
    exact ⟨rfl, by simp [← Except.ok.inj h, Overlay.stage, hi]⟩

lemma Overlay.insert_eq_ok {r : ρ} {o' : Overlay s} (h : o.insert r = .ok o') :
    o.upsert r = .ok o' := by
  rw [insert] at h
  cases hr : o.get? (s.key r) with
  | some x => simp [hr] at h
  | none => simpa [hr] using h

variable [LawfulEqOrd κ] [TransOrd κ]

lemma Overlay.Claimed.stage (h : o.Claimed index) (hi : s.index = some index) {r : ρ}
    (hr : o.rival? index r = none) : (o.stage r).Claimed index := by
  refine ⟨h.writes.put r, fun x hx => ?_⟩
  have hclaims : (o.stage r).claims = o.claims.insert (index.key r) (s.key r) := by
    simp [Overlay.stage, hi]
  have hfind : s.find? (s.key x) (s.put r o.writes) = some x :=
    (h.writes.put r).find?_eq_some_iff.mpr ⟨hx, rfl⟩
  rw [hclaims, Entries.find?_insert]
  rw [Schema.find?_put] at hfind
  by_cases hkey : s.key r = s.key x
  · rw [if_pos hkey] at hfind
    rw [Option.some.inj hfind, if_pos rfl]
  · rw [if_neg hkey] at hfind
    have hclaim := h.claims x (Schema.mem_of_find? hfind).1
    -- A staged row under another primary key would be found, and stand against this one.
    have hne : index.key r ≠ index.key x := by
      intro hk
      have hget : o.get? (s.key x) = some x := by simp [Overlay.get?, hfind]
      have hlead : o.lead? (index.key r) = some (s.key x) := by simp [lead?, hk, hclaim]
      have hrival : o.rival? index r = some x := by
        rw [rival?, findUnique?_of_index hi, hlead]
        simp [hget, hk, Ne.symm hkey]
      simp [hrival] at hr
    rw [if_neg hne, hclaim]

lemma Overlay.Claimed.serve (h : o.Claimed index) (hi : s.index = some index)
    (a : Access ρ κ) : (o.serve a).2.Claimed index := by
  have hupsert : ∀ {r o'}, o.upsert r = .ok o' → o'.Claimed index := by
    intro r o' ho
    obtain ⟨hrival, rfl⟩ := upsert_eq_ok hi ho
    exact h.stage hi hrival
  cases a with
  | insert r =>
    cases ho : o.insert r with
    | error f => simpa [Overlay.serve, ho, Finding.orStay, Except.map] using h
    | ok o' => simpa [Overlay.serve, ho, Finding.orStay, Except.map] using hupsert (insert_eq_ok ho)
  | upsert r =>
    cases ho : o.upsert r with
    | error f => simpa [Overlay.serve, ho, Finding.orStay, Except.map] using h
    | ok o' => simpa [Overlay.serve, ho, Finding.orStay, Except.map] using hupsert ho
  | get k => exact h
  | find k => exact h
  | allocate =>
    rw [Overlay.serve, Overlay.allocate]
    split
    · exact ⟨h.writes, h.claims⟩
    · exact h

lemma Overlay.Claimed.after (h : o.Claimed index) (hi : s.index = some index)
    (accesses : List (Access ρ κ)) : (o.after accesses).Claimed index := by
  induction accesses generalizing o with
  | nil => exact h
  | cons a accesses ih => exact ih (h.serve hi a)

end Staged

namespace Table

variable [DecidableEq κ] {t : Table s} {w : WriteSet s} {k : IndexKey} {key : κ}

lemma find?_release {es : Entries κ} {r : ρ} (h : (t.release index es r).find? k = some key) :
    es.find? k = some key ∧
      ∀ old, t.get? (s.key r) = some old → index.key old = k → s.key r ≠ key := by
  cases hold : t.get? (s.key r) with
  | none => simpa [release, hold] using h
  | some old =>
    simp only [release, hold] at h
    by_cases hlead : es.find? (index.key old) = some (s.key r)
    · rw [if_pos hlead, Entries.find?_erase] at h
      split_ifs at h with hk
      refine ⟨h, ?_⟩
      rintro _ ⟨rfl⟩ hold
      exact absurd hold hk
    · rw [if_neg hlead] at h
      refine ⟨h, ?_⟩
      rintro _ ⟨rfl⟩ rfl rfl
      exact hlead h

lemma find?_foldl_release {es : Entries κ} {ws : List ρ}
    (h : (ws.foldl (t.release index) es).find? k = some key) :
    es.find? k = some key ∧
      ∀ r ∈ ws, ∀ old, t.get? (s.key r) = some old → index.key old = k → s.key r ≠ key := by
  induction ws generalizing es with
  | nil => exact ⟨h, by simp⟩
  | cons r ws ih =>
    obtain ⟨hr, hws⟩ := ih h
    obtain ⟨hes, hold⟩ := find?_release hr
    exact ⟨hes, List.forall_mem_cons.mpr ⟨hold, hws⟩⟩

variable [Ord κ]

lemma find?_entries_apply (hi : s.index = some index) (hw : w.Distinct index) {r : ρ}
    (hr : r ∈ w.rows) : (t.apply w).entries.find? (index.key r) = some (s.key r) := by
  simp only [apply, hi]
  exact find?_foldl_claim s _ hr fun x hx hk => hw.distinct x hx r hr hk

variable [LawfulEqOrd κ]

lemma get?_apply (hw : w.Distinct index) (key : κ) :
    (t.apply w).get? key = (s.find? key w.rows <|> t.get? key) :=
  Schema.find?_foldl_put hw.ascending key t.rows

lemma get?_apply_of_mem (hw : w.Distinct index) {r : ρ} (hr : r ∈ w.rows) :
    (t.apply w).get? (s.key r) = some r := by
  have hfind := hw.ascending.find?_eq_some_iff.mpr ⟨hr, rfl⟩
  simp [get?_apply hw, hfind]

lemma findUnique?_apply_of_mem (hi : s.index = some index) (hw : w.Distinct index) {r : ρ}
    (hr : r ∈ w.rows) : (t.apply w).findUnique? (index.key r) = some r := by
  simp [findUnique?, hi, find?_entries_apply hi hw hr, get?_apply_of_mem hw hr]

variable [TransOrd κ]

lemma Guided.apply (h : t.Guided index) (hi : s.index = some index) (hw : w.Distinct index) :
    (t.apply w).Guided index := by
  have hascending : s.Ascending (t.apply w).rows := h.ascending.foldl_put
  have hmem : ∀ {r}, (t.apply w).get? (s.key r) = some r → r ∈ (t.apply w).rows := fun hr =>
    (hascending.find?_eq_some_iff.mp hr).1
  refine ⟨hascending, fun k key hkey => ?_⟩
  by_cases hclaimed : ∃ r ∈ w.rows, index.key r = k
  · obtain ⟨r, hr, rfl⟩ := hclaimed
    rw [find?_entries_apply hi hw hr] at hkey
    exact ⟨r, hmem (get?_apply_of_mem hw hr), Option.some.inj hkey, rfl⟩
  · have hnone : ∀ r ∈ w.rows, index.key r ≠ k := fun r hr hk => hclaimed ⟨r, hr, hk⟩
    simp only [Table.apply, hi] at hkey
    rw [find?_foldl_claim_of_ne s _ hnone] at hkey
    obtain ⟨hlead, hgiven⟩ := find?_foldl_release hkey
    obtain ⟨r, hr, rfl, hk⟩ := h.leads k key hlead
    have hget : t.get? (s.key r) = some r := h.ascending.find?_eq_some_iff.mpr ⟨hr, rfl⟩
    -- Had the row been replaced, its entry would have been given up with it.
    have hkept : s.find? (s.key r) w.rows = none := Schema.find?_eq_none_iff.mpr fun x hx hkey =>
      hgiven x hx r (hkey ▸ hget) hk hkey
    refine ⟨r, hmem ?_, rfl, hk⟩
    simp [get?_apply hw, hkept, hget]

end Table

namespace Backlog

variable [DecidableEq κ] [Ord κ]

def shift (b : Backlog s) : Shift ρ κ → Backlog s
  | .hold accesses =>
    { b with held := b.held ++ [((Overlay.begin b.table).after accesses).writeSet] }
  | .apply i =>
    match b.held[i]? with
    | some w => { b with table := b.table.apply w }
    | none => b

def run (shifts : List (Shift ρ κ)) : Backlog s :=
  shifts.foldl shift {}

structure Sound (b : Backlog s) (index : UniqueIndex ρ) : Prop where
  table : b.table.Guided index
  held : ∀ w ∈ b.held, w.Distinct index

variable [LawfulEqOrd κ] [TransOrd κ] {b : Backlog s}

lemma Sound.shift (h : b.Sound index) (hi : s.index = some index) (m : Shift ρ κ) :
    (b.shift m).Sound index := by
  cases m with
  | hold accesses =>
    refine ⟨h.table, fun w hw => ?_⟩
    rcases List.mem_append.mp hw with hw | hw
    · exact h.held w hw
    · rw [List.mem_singleton.mp hw]
      exact ((Overlay.Claimed.begin b.table).after hi accesses).writeSet
  | apply i =>
    rw [Backlog.shift]
    cases hw : b.held[i]? with
    | none => exact h
    | some w => exact ⟨h.table.apply hi (h.held w (List.mem_of_getElem? hw)), h.held⟩

lemma sound_run (hi : s.index = some index) (shifts : List (Shift ρ κ)) :
    (run shifts : Backlog s).Sound index := by
  have hrun : ∀ b : Backlog s, b.Sound index → (shifts.foldl Backlog.shift b).Sound index := by
    induction shifts with
    | nil => exact fun b h => h
    | cons m shifts ih => exact fun b h => ih _ (h.shift hi m)
  refine hrun {} ⟨⟨List.Pairwise.nil, fun k key hkey => ?_⟩, fun w hw => absurd hw (by simp)⟩
  simp [Entries.find?] at hkey

/-- However late write sets are applied, the index finds committed rows under their own index keys
only, and no entry of it leads nowhere. The rows of a write set have different index keys, and once
it is applied each of them is the one that is found. -/
theorem run_index_sound (hi : s.index = some index) (shifts : List (Shift ρ κ)) :
    let b : Backlog s := run shifts
    (∀ k r, b.table.findUnique? k = some r → r ∈ b.table.rows ∧ index.key r = k) ∧
      (∀ k key, b.table.entries.find? k = some key →
        ∃ r ∈ b.table.rows, s.key r = key ∧ index.key r = k) ∧
      (∀ w ∈ b.held, w.rows.Pairwise fun r x => index.key r ≠ index.key x) ∧
      ∀ i w, b.held[i]? = some w → ∀ r ∈ w.rows,
        (b.shift (.apply i)).table.findUnique? (index.key r) = some r := by
  intro b
  have hb : b.Sound index := sound_run hi shifts
  refine ⟨fun k r hr => hb.table.findUnique?_eq_some hi hr, hb.table.leads,
    fun w hw => (hb.held w hw).pairwise, fun i w hw r hr => ?_⟩
  rw [shift, hw]
  exact Table.findUnique?_apply_of_mem hi (hb.held w (List.mem_of_getElem? hw)) hr

def contested : List (Shift Checkpoint CheckpointId) :=
  [.hold [.insert (root 0 1)], .hold [.insert (root 1 1)], .apply 0]

theorem run_index_sound_contested :
    checkpointSchema.index = some rootIndex ∧
      let b : Backlog checkpointSchema := run contested
      b.table.findUnique? [1] = some (root 0 1) ∧ (root 0 1) ∈ b.table.rows ∧
        (b.shift (.apply 1)).table.rows = [root 0 1, root 1 1] ∧
        (b.shift (.apply 1)).table.findUnique? [1] = some (root 1 1) := by
  obtain ⟨hfound, -, -, hclaimed⟩ := run_index_sound checkpointSchema_index contested
  have hfirst : (run contested : Backlog checkpointSchema).table.findUnique? [1] =
      some (root 0 1) := by decide
  exact ⟨rfl, hfirst, (hfound [1] _ hfirst).1, by decide,
    hclaimed 1 ⟨[root 1 1], 0⟩ (by rfl) (root 1 1) (by simp)⟩

end Backlog

end Depository.Store
