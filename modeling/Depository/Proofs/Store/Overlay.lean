import Depository.Proofs.Store.Rows
import Depository.Store.Overlay

namespace Depository.Store

open Std

variable {ρ κ : Type} {s : Schema ρ κ}

namespace Entries

variable (es : Entries κ) (k l : IndexKey) (v : κ)

lemma find?_erase_of_ne (h : k ≠ l) : (es.erase k).find? l = es.find? l := by
  obtain ⟨pairs⟩ := es
  simp only [find?, erase]
  induction pairs with
  | nil => rfl
  | cons p ps ih =>
    obtain ⟨m, w⟩ := p
    by_cases hm : m = k
    · subst hm
      have hlm : (l == m) = false := by simp [Ne.symm h]
      simpa [List.lookup_cons, hlm] using ih
    · rw [List.filter_cons_of_pos (by simpa using hm)]
      rw [List.lookup_cons, List.lookup_cons, ih]

lemma find?_insert : (es.insert k v).find? l = if k = l then some v else es.find? l := by
  by_cases h : k = l
  · subst h
    simp [find?, insert]
  · have hl : (l == k) = false := by simp [Ne.symm h]
    rw [if_neg h, ← es.find?_erase_of_ne k l h]
    simp [find?, insert, List.lookup_cons, hl]

end Entries

namespace Table

variable [DecidableEq κ]

section Index

variable (t : Table s) (index : UniqueIndex ρ)

def Exact : Prop :=
  ∀ k key, t.entries.find? k = some key ↔ ∃ r ∈ t.rows, s.key r = key ∧ index.key r = k

/-- Each entry leads to a row that has its index key, though not to all of them. -/
structure Guided [Ord κ] : Prop where
  ascending : s.Ascending t.rows
  leads : ∀ k key, t.entries.find? k = some key → ∃ r ∈ t.rows, s.key r = key ∧ index.key r = k

variable {t index} [Ord κ] [LawfulEqOrd κ]

lemma Guided.findUnique?_eq_some (h : t.Guided index) (hi : s.index = some index)
    {k : IndexKey} {r : ρ} (hr : t.findUnique? k = some r) : r ∈ t.rows ∧ index.key r = k := by
  simp only [findUnique?, hi, Option.isSome_some, if_true, Option.bind_eq_some_iff] at hr
  obtain ⟨key, hlead, hget⟩ := hr
  obtain ⟨x, hx, rfl, hk⟩ := h.leads k key hlead
  have hsame : t.get? (s.key x) = some x := h.ascending.find?_eq_some_iff.mpr ⟨hx, rfl⟩
  obtain rfl := Option.some.inj (hsame.symm.trans hget)
  exact ⟨hx, hk⟩

lemma findUnique?_eq_some_iff (hi : s.index = some index) (ha : s.Ascending t.rows)
    (he : t.Exact index) {k : IndexKey} {r : ρ} :
    t.findUnique? k = some r ↔ r ∈ t.rows ∧ index.key r = k := by
  have hguided : t.Guided index := ⟨ha, fun k key => (he k key).mp⟩
  refine ⟨hguided.findUnique?_eq_some hi, ?_⟩
  rintro ⟨hr, hk⟩
  simp only [findUnique?, hi, Option.isSome_some, if_true, Option.bind_eq_some_iff]
  exact ⟨s.key r, (he k _).mpr ⟨r, hr, rfl, hk⟩, ha.find?_eq_some_iff.mpr ⟨hr, rfl⟩⟩

lemma findUnique?_eq_none_iff (hi : s.index = some index) (ha : s.Ascending t.rows)
    (he : t.Exact index) {k : IndexKey} :
    t.findUnique? k = none ↔ ∀ r ∈ t.rows, index.key r ≠ k := by
  constructor
  · intro h r hr hk
    simp [(findUnique?_eq_some_iff hi ha he).mpr ⟨hr, hk⟩] at h
  · intro h
    cases hf : t.findUnique? k with
    | none => rfl
    | some r =>
      obtain ⟨hr, hk⟩ := (findUnique?_eq_some_iff hi ha he).mp hf
      exact absurd hk (h r hr)

end Index

variable [Ord κ]

def enter (t : Table s) (r : ρ) (next : UInt64) : Table s :=
  t.apply ⟨[r], next⟩

@[simp] lemma enter_rows (t : Table s) (r : ρ) (next : UInt64) :
    (t.enter r next).rows = s.put r t.rows := rfl

lemma enter_rows_next [OrientedOrd κ] [Numbering κ] {t : Table s} {next : UInt64}
    (h : s.Serial t.rows next) {r : ρ} (hr : s.key r = Numbering.ofSeq next) (after : UInt64) :
    (t.enter r after).rows = t.rows ++ [r] :=
  h.put hr

lemma get?_enter [LawfulEqOrd κ] (t : Table s) (r : ρ) (next : UInt64) (k : κ) :
    (t.enter r next).get? k = if s.key r = k then some r else t.get? k :=
  s.find?_put k r t.rows

lemma Exact.enter {t : Table s} {index : UniqueIndex ρ} (hi : s.index = some index)
    (he : t.Exact index) {r : ρ} {next : UInt64} (hk : t.get? (s.key r) = none)
    (hu : ∀ x ∈ t.rows, index.key x ≠ index.key r)
    (hrows : ∀ x, x ∈ s.put r t.rows ↔ x ∈ t.rows ∨ x = r) : (t.enter r next).Exact index := by
  have hentries : (t.enter r next).entries = t.entries.insert (index.key r) (s.key r) := by
    simp [Table.enter, apply, hi, release, hk, claim]
  intro k key
  rw [hentries, Entries.find?_insert, enter_rows]
  by_cases h : index.key r = k
  · subst h
    rw [if_pos rfl]
    constructor
    · intro hkey
      exact ⟨r, (hrows r).mpr (.inr rfl), Option.some.inj hkey, rfl⟩
    · rintro ⟨x, hx, rfl, hxk⟩
      rcases (hrows x).mp hx with hx | rfl
      · exact absurd hxk (hu x hx)
      · rfl
  · rw [if_neg h, he k key]
    constructor
    · rintro ⟨x, hx, hxk⟩
      exact ⟨x, (hrows x).mpr (.inl hx), hxk⟩
    · rintro ⟨x, hx, hxk, hxu⟩
      rcases (hrows x).mp hx with hx | rfl
      · exact ⟨x, hx, hxk, hxu⟩
      · exact absurd hxu h

end Table

namespace Overlay

section Views

variable [Ord κ] (o : Overlay s)

def rows : List ρ :=
  o.writes.foldl (fun rows r => s.put r rows) o.base.rows

def stage (r : ρ) : Overlay s :=
  { o with
    writes := s.put r o.writes
    claims := match s.index with
      | none => o.claims
      | some index => o.claims.insert (index.key r) (s.key r) }

structure Ordered : Prop where
  base : s.Ascending o.base.rows
  writes : s.Ascending o.writes

lemma Ordered.begin {t : Table s} (h : s.Ascending t.rows) : (begin t).Ordered :=
  ⟨h, List.Pairwise.nil⟩

variable {o} [TransOrd κ] [LawfulEqOrd κ]

lemma Ordered.rows_ascending (h : o.Ordered) : s.Ascending o.rows :=
  h.base.foldl_put

lemma Ordered.stage (h : o.Ordered) (r : ρ) : (o.stage r).Ordered :=
  ⟨h.base, h.writes.put r⟩

end Views

variable [DecidableEq κ]

@[simp] lemma get?_begin (t : Table s) (k : κ) : (begin t).get? k = t.get? k := by
  simp [get?, begin, Table.get?]

variable [Ord κ] (o : Overlay s)

lemma upsert_of_no_index (hi : s.index = none) (r : ρ) : o.upsert r = .ok (o.stage r) := by
  simp [upsert, stage, hi]

lemma insert_of_no_index (hi : s.index = none) {r : ρ} (hk : o.get? (s.key r) = none) :
    o.insert r = .ok (o.stage r) := by
  rw [insert, hk]
  exact o.upsert_of_no_index hi r

lemma insert_of_index {index : UniqueIndex ρ} (hi : s.index = some index) {r : ρ}
    (hk : o.get? (s.key r) = none) (hu : o.findUnique? (index.key r) = none) :
    o.insert r = .ok (o.stage r) := by
  simp [insert, hk, upsert, rival?, hu, stage, hi]

variable {o} [LawfulEqOrd κ]

lemma findUnique?_begin {t : Table s} {index : UniqueIndex ρ} (hi : s.index = some index)
    (ha : s.Ascending t.rows) (he : t.Exact index) (k : IndexKey) :
    (begin t).findUnique? k = t.findUnique? k := by
  have hclaims : (begin t).claims.find? k = none := rfl
  have hbase : (begin t).base = t := rfl
  simp only [findUnique?, Table.findUnique?, hi, hclaims, hbase, get?_begin]
  cases hk : t.entries.find? k with
  | none => rfl
  | some key =>
    obtain ⟨r, hr, rfl, hrk⟩ := (he k key).mp hk
    have hget : t.get? (s.key r) = some r := ha.find?_eq_some_iff.mpr ⟨hr, rfl⟩
    simp [hget, hrk]

lemma Ordered.get? (h : o.Ordered) (k : κ) : o.get? k = s.find? k o.rows :=
  (s.find?_foldl_put h.writes k o.base.rows).symm

variable [TransOrd κ]

lemma Ordered.rows_stage (h : o.Ordered) (r : ρ) : (o.stage r).rows = s.put r o.rows := by
  refine (h.stage r).rows_ascending.ext (h.rows_ascending.put r) fun k => ?_
  rw [← (h.stage r).get?, s.find?_put, ← h.get?]
  simp only [Overlay.get?, Overlay.stage, s.find?_put]
  by_cases hk : s.key r = k <;> simp [hk]

end Overlay

namespace Table

variable [DecidableEq κ] [Ord κ] (t : Table s)

@[simp] lemma apply_begin : t.apply (Overlay.begin t).writeSet = t := by
  cases hi : s.index <;> simp [apply, Overlay.writeSet, Overlay.begin, hi]

lemma apply_stage {o : Overlay s} (hw : o.writes = []) (r : ρ) :
    t.apply (o.stage r).writeSet = t.enter r o.nextSeq := by
  simp [enter, Overlay.writeSet, Overlay.stage, hw, Schema.put]

end Table

end Depository.Store
