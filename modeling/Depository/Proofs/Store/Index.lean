import Depository.Proofs.Store.Overlay

/-! The unique index, kept in step with the rows: over a table whose index is right the staged one
is right too, and it stays so when what is staged is applied. -/

namespace Depository.Store

open Std

variable {ρ κ : Type} {s : Schema ρ κ}

lemma Entries.find?_erase (es : Entries κ) (k l : IndexKey) :
    (es.erase k).find? l = if k = l then none else es.find? l := by
  by_cases h : k = l
  · subst h
    rw [if_pos rfl, Entries.find?, List.lookup_eq_none_iff]
    intro p hp
    have hne : p.1 ≠ k := by simpa using (List.mem_filter.mp hp).2
    exact bne_iff_ne.mpr hne.symm
  · rw [if_neg h, es.find?_erase_of_ne k l h]

namespace Table

variable {t : Table s} {index : UniqueIndex ρ}

/-- The entries lead to the rows whose primary keys are among the given ones, and nowhere else. -/
def LeadsTo (t : Table s) (index : UniqueIndex ρ) (kept : κ → Prop) (es : Entries κ) : Prop :=
  ∀ k key, es.find? k = some key ↔ kept key ∧ ∃ r ∈ t.rows, s.key r = key ∧ index.key r = k

structure Settled [Ord κ] (t : Table s) : Prop where
  ascending : s.Ascending t.rows
  exact : ∀ index, s.index = some index → t.Exact index

lemma Exact.leadsTo (h : t.Exact index) : t.LeadsTo index (fun _ => True) t.entries := by
  intro k key
  rw [h k key, true_and]

lemma Settled.opened [Ord κ] : ({} : Table s).Settled where
  ascending := List.Pairwise.nil
  exact index _ k key := by simp [Entries.find?]

section Claims

variable (s) {ws : List ρ}

lemma find?_foldl_claim_of_ne (es : Entries κ) {k : IndexKey} (h : ∀ w ∈ ws, index.key w ≠ k) :
    (ws.foldl (claim s index) es).find? k = es.find? k := by
  induction ws generalizing es with
  | nil => rfl
  | cons w ws ih =>
    obtain ⟨hw, hws⟩ := List.forall_mem_cons.mp h
    rw [List.foldl_cons, ih _ hws, claim, Entries.find?_insert, if_neg hw]

lemma find?_foldl_claim (es : Entries κ) {w : ρ} (hw : w ∈ ws)
    (h : ∀ x ∈ ws, index.key x = index.key w → s.key x = s.key w) :
    (ws.foldl (claim s index) es).find? (index.key w) = some (s.key w) := by
  induction ws generalizing es w with
  | nil => cases hw
  | cons x ws ih =>
    obtain ⟨hx, hws⟩ := List.forall_mem_cons.mp h
    rw [List.foldl_cons]
    by_cases hlast : ∃ y ∈ ws, index.key y = index.key w
    · -- A later row claims the same index key, and it does so for the same primary key.
      obtain ⟨y, hy, hyk⟩ := hlast
      have hkey := hws y hy hyk
      rw [← hyk, ← hkey]
      exact ih _ hy fun z hz hzk => (hws z hz (hzk.trans hyk)).trans hkey.symm
    · have hnone : ∀ y ∈ ws, index.key y ≠ index.key w := fun y hy hyk => hlast ⟨y, hy, hyk⟩
      have hxw : x = w := by
        rcases List.mem_cons.mp hw with rfl | hw
        · rfl
        · exact absurd rfl (hnone w hw)
      rw [find?_foldl_claim_of_ne s _ hnone, claim, Entries.find?_insert, hxw, if_pos rfl]

end Claims

variable [DecidableEq κ] [Ord κ] [LawfulEqOrd κ] (ha : s.Ascending t.rows)

include ha

lemma Exact.eq_of_index_eq (h : t.Exact index) {r x : ρ} (hr : r ∈ t.rows) (hx : x ∈ t.rows)
    (hk : index.key r = index.key x) : r = x := by
  have hlead := (h (index.key r) (s.key r)).mpr ⟨r, hr, rfl, rfl⟩
  rw [(h (index.key r) (s.key x)).mpr ⟨x, hx, rfl, hk.symm⟩] at hlead
  exact ha.eq_of_key_eq hr hx (Option.some.inj hlead).symm

lemma LeadsTo.release (he : t.Exact index) {kept : κ → Prop} {es : Entries κ}
    (h : t.LeadsTo index kept es) (w : ρ) :
    t.LeadsTo index (fun key => kept key ∧ key ≠ s.key w) (t.release index es w) := by
  intro k key
  cases hold : t.get? (s.key w) with
  | none =>
    have hfree : ∀ r ∈ t.rows, s.key r ≠ s.key w := Schema.find?_eq_none_iff.mp hold
    rw [Table.release, hold, h k key]
    constructor
    · rintro ⟨hkept, r, hr, rfl, hk⟩
      exact ⟨⟨hkept, hfree r hr⟩, r, hr, rfl, hk⟩
    · rintro ⟨⟨hkept, -⟩, hrow⟩
      exact ⟨hkept, hrow⟩
  | some old =>
    obtain ⟨hmem, hkey⟩ := ha.find?_eq_some_iff.mp hold
    rw [Table.release, hold]
    dsimp only
    by_cases hlead : es.find? (index.key old) = some (s.key w)
    · rw [if_pos hlead, Entries.find?_erase]
      by_cases hk : index.key old = k
      · rw [if_pos hk]
        constructor
        · intro hnone
          cases hnone
        · rintro ⟨⟨-, hne⟩, r, hr, rfl, hrk⟩
          obtain rfl := he.eq_of_index_eq ha hr hmem (hrk.trans hk.symm)
          exact absurd hkey hne
      · rw [if_neg hk, h k key]
        constructor
        · rintro ⟨hkept, r, hr, rfl, hrk⟩
          refine ⟨⟨hkept, fun hw => hk ?_⟩, r, hr, rfl, hrk⟩
          obtain rfl := ha.eq_of_key_eq hr hmem (hw.trans hkey.symm)
          exact hrk
        · rintro ⟨⟨hkept, -⟩, hrow⟩
          exact ⟨hkept, hrow⟩
    · -- The entry of the old row has been given up before, so its key is not among those kept.
      have hgone : ¬ kept (s.key w) := fun hkept =>
        hlead ((h _ _).mpr ⟨hkept, old, hmem, hkey, rfl⟩)
      rw [if_neg hlead, h k key]
      constructor
      · rintro ⟨hkept, hrow⟩
        exact ⟨⟨hkept, fun hw => hgone (hw ▸ hkept)⟩, hrow⟩
      · rintro ⟨⟨hkept, -⟩, hrow⟩
        exact ⟨hkept, hrow⟩

lemma LeadsTo.foldl_release (he : t.Exact index) (ws : List ρ) {kept : κ → Prop}
    {es : Entries κ} (h : t.LeadsTo index kept es) :
    t.LeadsTo index (fun key => kept key ∧ ∀ w ∈ ws, key ≠ s.key w)
      (ws.foldl (t.release index) es) := by
  induction ws generalizing kept es with
  | nil => simpa using h
  | cons w ws ih => simpa [and_assoc] using ih (h.release ha he w)

end Table

namespace Overlay

variable {o : Overlay s} {t : Table s} {index : UniqueIndex ρ}

def lead? (o : Overlay s) (k : IndexKey) : Option κ :=
  o.claims.find? k <|> o.base.entries.find? k

structure Over [Ord κ] (o : Overlay s) (t : Table s) : Prop where
  base : o.base = t
  settled : t.Settled
  writes : s.Ascending o.writes
  leads : ∀ index, s.index = some index → ∀ r ∈ o.rows, o.lead? (index.key r) = some (s.key r)

lemma findUnique?_of_index [DecidableEq κ] (hi : s.index = some index) (k : IndexKey) :
    o.findUnique? k = (o.lead? k).bind fun key => (o.get? key).filter fun r => index.key r = k := by
  simp only [findUnique?, hi, lead?]
  rfl

section Basic

variable [Ord κ]

lemma Over.ordered (h : o.Over t) : o.Ordered :=
  ⟨h.base ▸ h.settled.ascending, h.writes⟩

lemma Over.begin (h : t.Settled) : (begin t).Over t where
  base := rfl
  settled := h
  writes := List.Pairwise.nil
  leads index hi r hr := (h.exact index hi _ _).mpr ⟨r, hr, rfl, rfl⟩

lemma Over.setNext (h : o.Over t) (next : UInt64) : { o with nextSeq := next }.Over t :=
  ⟨h.base, h.settled, h.writes, h.leads⟩

lemma Over.rows_apply [DecidableEq κ] (h : o.Over t) : (t.apply o.writeSet).rows = o.rows := by
  rw [Overlay.rows, h.base]
  rfl

lemma Over.ascending [LawfulEqOrd κ] [TransOrd κ] (h : o.Over t) : s.Ascending o.rows :=
  h.ordered.rows_ascending

end Basic

variable [DecidableEq κ] [Ord κ] [LawfulEqOrd κ] [TransOrd κ]

lemma Over.get?_eq_some_iff (h : o.Over t) {k : κ} {r : ρ} :
    o.get? k = some r ↔ r ∈ o.rows ∧ s.key r = k := by
  rw [h.ordered.get?, h.ascending.find?_eq_some_iff]

lemma Over.mem_rows_iff (h : o.Over t) {r : ρ} :
    r ∈ o.rows ↔ r ∈ o.writes ∨ r ∈ t.rows ∧ ∀ w ∈ o.writes, s.key w ≠ s.key r := by
  rw [Overlay.rows, h.base]
  exact h.settled.ascending.mem_foldl_put_iff h.writes

lemma Over.findUnique?_eq_some_iff (h : o.Over t) (hi : s.index = some index) {k : IndexKey}
    {r : ρ} : o.findUnique? k = some r ↔ r ∈ o.rows ∧ index.key r = k := by
  rw [findUnique?_of_index hi, Option.bind_eq_some_iff]
  constructor
  · rintro ⟨key, -, hr⟩
    obtain ⟨hget, hk⟩ := Option.filter_eq_some_iff.mp hr
    exact ⟨(h.get?_eq_some_iff.mp hget).1, by simpa using hk⟩
  · rintro ⟨hr, rfl⟩
    refine ⟨s.key r, h.leads index hi r hr, Option.filter_eq_some_iff.mpr ⟨?_, by simp⟩⟩
    exact h.get?_eq_some_iff.mpr ⟨hr, rfl⟩

lemma Over.eq_of_index_eq (h : o.Over t) (hi : s.index = some index) {r x : ρ}
    (hr : r ∈ o.rows) (hx : x ∈ o.rows) (hk : index.key r = index.key x) : r = x := by
  have hfind := (h.findUnique?_eq_some_iff hi).mpr ⟨hr, hk⟩
  rw [(h.findUnique?_eq_some_iff hi).mpr ⟨hx, rfl⟩] at hfind
  exact (Option.some.inj hfind).symm

lemma Over.mem_rows_stage_iff (h : o.Over t) {r x : ρ} :
    x ∈ (o.stage r).rows ↔ x = r ∨ x ∈ o.rows ∧ s.key x ≠ s.key r := by
  have hput : x ∈ (o.stage r).rows ↔ s.find? (s.key x) (s.put r o.rows) = some x := by
    rw [h.ordered.rows_stage, (h.ascending.put r).find?_eq_some_iff, and_iff_left rfl]
  rw [hput, Schema.find?_put]
  by_cases hk : s.key r = s.key x
  · simp [hk, eq_comm]
  · have hne : x ≠ r := fun he => hk (congrArg s.key he.symm)
    simp [hk, hne, h.ascending.find?_eq_some_iff, Ne.symm hk]

lemma Over.stage (h : o.Over t) {r : ρ} (hfree : ∀ index, s.index = some index →
    ∀ x ∈ o.rows, index.key x = index.key r → s.key x = s.key r) : (o.stage r).Over t where
  base := h.base
  settled := h.settled
  writes := h.writes.put r
  leads index hi x hx := by
    have hclaims : (o.stage r).claims = o.claims.insert (index.key r) (s.key r) := by
      simp [Overlay.stage, hi]
    have hbase : (o.stage r).base = o.base := rfl
    rw [lead?, hclaims, hbase, Entries.find?_insert]
    rcases h.mem_rows_stage_iff.mp hx with rfl | ⟨hx, hne⟩
    · simp
    · have hk : index.key r ≠ index.key x := fun hk => hne (hfree index hi x hx hk.symm)
      rw [if_neg hk]
      exact h.leads index hi x hx

lemma Over.stage_of_no_index (h : o.Over t) (hi : s.index = none) (r : ρ) : (o.stage r).Over t := by
  refine h.stage fun index hindex => ?_
  cases hi.symm.trans hindex

lemma Over.exact_apply (h : o.Over t) (hi : s.index = some index) :
    (t.apply o.writeSet).Exact index := by
  have hentries : (t.apply o.writeSet).entries =
      o.writes.foldl (Table.claim s index) (o.writes.foldl (t.release index) t.entries) := by
    simp [Table.apply, hi, writeSet]
  have hexact := h.settled.exact index hi
  have hreleased := hexact.leadsTo.foldl_release h.settled.ascending hexact o.writes
  have hrow : ∀ w ∈ o.writes, w ∈ o.rows := fun w hw => h.mem_rows_iff.mpr (.inl hw)
  intro k key
  rw [hentries, h.rows_apply]
  by_cases hclaimed : ∃ w ∈ o.writes, index.key w = k
  · obtain ⟨w, hw, rfl⟩ := hclaimed
    rw [Table.find?_foldl_claim s _ hw fun x hx hk =>
      congrArg s.key (h.eq_of_index_eq hi (hrow x hx) (hrow w hw) hk)]
    constructor
    · intro hkey
      exact ⟨w, hrow w hw, Option.some.inj hkey, rfl⟩
    · rintro ⟨r, hr, rfl, hk⟩
      rw [h.eq_of_index_eq hi hr (hrow w hw) hk]
  · have hnone : ∀ w ∈ o.writes, index.key w ≠ k := fun w hw hk => hclaimed ⟨w, hw, hk⟩
    rw [Table.find?_foldl_claim_of_ne s _ hnone, hreleased k key]
    constructor
    · rintro ⟨⟨-, hkept⟩, r, hr, rfl, hk⟩
      exact ⟨r, h.mem_rows_iff.mpr (.inr ⟨hr, fun w hw => (hkept w hw).symm⟩), rfl, hk⟩
    · rintro ⟨r, hr, rfl, hk⟩
      rcases h.mem_rows_iff.mp hr with hr | ⟨hr, hne⟩
      · exact absurd hk (hnone r hr)
      · exact ⟨⟨trivial, fun w hw => (hne w hw).symm⟩, r, hr, rfl, hk⟩

lemma Over.settled_apply (h : o.Over t) : (t.apply o.writeSet).Settled where
  ascending := h.rows_apply ▸ h.ascending
  exact _ hi := h.exact_apply hi

end Overlay

end Depository.Store
