import Depository.Proofs.Books
import Depository.Proofs.Store.Sheet

namespace Depository.Store

open Std

variable {ρ κ : Type} {s : Schema ρ κ}

structure Visit (ρ κ : Type) where
  accesses : List (Access ρ κ)
  commits : Bool := true

/-- The rows are in order, no two have the same index key, and each is found under its own. -/
structure Indexed [Ord κ] (s : Schema ρ κ) (index : UniqueIndex ρ) (rows : List ρ)
    (find : IndexKey → Option ρ) : Prop where
  ascending : s.Ascending rows
  unique : rows.Pairwise fun a b => index.key a ≠ index.key b
  finds : ∀ k r, find k = some r ↔ r ∈ rows ∧ index.key r = k

lemma Schema.Ascending.unique [Ord κ] [LawfulEqOrd κ] {index : UniqueIndex ρ} {rows : List ρ}
    (h : s.Ascending rows) (hi : ∀ r ∈ rows, ∀ x ∈ rows, index.key r = index.key x → r = x) :
    rows.Pairwise fun a b => index.key a ≠ index.key b := by
  refine List.Pairwise.imp_of_mem ?_ h
  intro a b ha hb hlt hk
  obtain rfl := hi a ha b hb hk
  simp at hlt

namespace Table

variable [DecidableEq κ] [Ord κ]

def commit (t : Table s) (accesses : List (Access ρ κ)) : Table s :=
  t.apply ((Overlay.begin t).after accesses).writeSet

def visit (t : Table s) (v : Visit ρ κ) : Table s :=
  if v.commits then t.commit v.accesses else t

def visited (vs : List (Visit ρ κ)) : Table s :=
  vs.foldl visit {}

variable [LawfulEqOrd κ] [TransOrd κ] {t : Table s}

lemma Settled.after (h : t.Settled) (accesses : List (Access ρ κ)) :
    ((Overlay.begin t).after accesses).Over t :=
  (Overlay.Over.begin h).after accesses

lemma Settled.commit (h : t.Settled) (accesses : List (Access ρ κ)) : (t.commit accesses).Settled :=
  (h.after accesses).settled_apply

lemma settled_visited (vs : List (Visit ρ κ)) : (visited vs : Table s).Settled := by
  have hrun : ∀ t : Table s, t.Settled → (vs.foldl visit t).Settled := by
    induction vs with
    | nil => exact fun t h => h
    | cons v vs ih =>
      intro t h
      apply ih
      rw [visit]
      split
      · exact h.commit v.accesses
      · exact h
  exact hrun {} .opened

lemma Settled.sheet_commit (h : t.Settled) (accesses : List (Access ρ κ)) :
    (t.commit accesses).sheet = ((Overlay.begin t).after accesses).sheet :=
  (h.after accesses).sheet_apply

/-- Committing in between makes no difference: the accesses are answered alike, and they lead to
the same rows, the same index and the same next number. -/
theorem visited_commit_append (vs : List (Visit ρ κ)) (xs ys : List (Access ρ κ)) :
    let t : Table s := visited vs
    (Overlay.begin t).answers (xs ++ ys) =
        (Overlay.begin t).answers xs ++ (Overlay.begin (t.commit xs)).answers ys ∧
      (t.commit (xs ++ ys)).rows = ((t.commit xs).commit ys).rows ∧
      (∀ k, (t.commit (xs ++ ys)).findUnique? k = ((t.commit xs).commit ys).findUnique? k) ∧
      (t.commit (xs ++ ys)).nextSeq = ((t.commit xs).commit ys).nextSeq := by
  intro t
  have ht : t.Settled := settled_visited vs
  have hmid := ht.commit xs
  obtain ⟨hanswers, hsheet⟩ := (ht.after xs).indistinguishable (.begin hmid)
    (ht.sheet_commit xs).symm ys
  have hfinal : (t.commit (xs ++ ys)).sheet = ((t.commit xs).commit ys).sheet := by
    rw [ht.sheet_commit, hmid.sheet_commit, Overlay.after_append]
    exact hsheet
  refine ⟨?_, congrArg Sheet.rows hfinal, fun k => ?_, congrArg Sheet.nextSeq hfinal⟩
  · rw [Overlay.answers_append, hanswers]
  · rw [(ht.commit _).findUnique?_eq, (hmid.commit ys).findUnique?_eq, hfinal]

end Table

def root (id : UInt64) (byte : UInt8) : Checkpoint :=
  ⟨⟨id⟩, ⟨[byte]⟩⟩

def handover : List (Access Checkpoint CheckpointId) :=
  [.upsert (root 1 3), .upsert (root 0 2)]

theorem visited_commit_append_handover :
    let t : Table checkpointSchema :=
      Table.visited [⟨[.insert (root 0 1), .insert (root 1 2)], true⟩]
    (Overlay.begin t).answers (handover ++ [.find [2], .insert (root 2 2), .allocate]) =
        (Overlay.begin t).answers handover ++
          (Overlay.begin (t.commit handover)).answers [.find [2], .insert (root 2 2), .allocate] ∧
      (t.commit handover).rows = [root 0 2, root 1 3] := by
  refine ⟨?_, by decide⟩
  exact (Table.visited_commit_append [⟨[.insert (root 0 1), .insert (root 1 2)], true⟩] handover
    [.find [2], .insert (root 2 2), .allocate]).1

namespace Table

variable [DecidableEq κ] [Ord κ] [LawfulEqOrd κ] [TransOrd κ]

/-- The index of a table finds exactly its rows, as does that of an overlay. A row is refused for
its primary key first and for its index key second, and only if a row that is shown has it. -/
theorem visited_index_exact {index : UniqueIndex ρ} (hi : s.index = some index)
    (vs : List (Visit ρ κ)) :
    let t : Table s := visited vs
    Indexed s index t.rows t.findUnique? ∧ ∀ accesses,
      let o := (Overlay.begin t).after accesses
      Indexed s index o.rows o.findUnique? ∧
        (∀ k r, o.get? k = some r ↔ r ∈ o.rows ∧ s.key r = k) ∧
        (∀ r, o.insert r =
          if ∃ x ∈ o.rows, s.key x = s.key r then
            .error (.duplicateKey s.name (s.keyText (s.key r)))
          else if ∃ x ∈ o.rows, s.key x ≠ s.key r ∧ index.key x = index.key r then
            .error (.duplicateEntry index.name (preview (index.key r)))
          else .ok (o.stage r)) ∧
        (∀ r, o.upsert r =
          if ∃ x ∈ o.rows, s.key x ≠ s.key r ∧ index.key x = index.key r then
            .error (.duplicateEntry index.name (preview (index.key r)))
          else .ok (o.stage r)) ∧
        (∀ r x, x ∈ (o.stage r).rows ↔ x = r ∨ x ∈ o.rows ∧ s.key x ≠ s.key r) ∧
        ∀ a f, (o.serve a).1 = .error f → (o.serve a).2 = o := by
  intro t
  have ht : t.Settled := settled_visited vs
  have hexact := ht.exact index hi
  refine ⟨⟨ht.ascending, ht.ascending.unique fun r hr x hx => ?_, fun k r => ?_⟩, ?_⟩
  · exact hexact.eq_of_index_eq ht.ascending hr hx
  · exact findUnique?_eq_some_iff hi ht.ascending hexact
  · intro accesses o
    have ho : o.Over t := ht.after accesses
    refine ⟨⟨ho.ascending, ho.ascending.unique fun r hr x hx => ?_, fun k r => ?_⟩, ?_⟩
    · exact ho.eq_of_index_eq hi hr hx
    · exact ho.findUnique?_eq_some_iff hi
    · refine ⟨fun k r => ho.get?_eq_some_iff, fun r => ?_, fun r => ho.upsert_eq r hi,
        fun r x => ho.mem_rows_stage_iff, fun a f => o.serve_of_error⟩
      rw [ho.insert_eq, ho.upsert_eq r hi]

theorem visited_index_exact_handover :
    checkpointSchema.index = some rootIndex ∧
      let t : Table checkpointSchema :=
        visited [⟨[.insert (root 0 1), .insert (root 1 2)], true⟩, ⟨handover, true⟩]
      t.rows = [root 0 2, root 1 3] ∧ Indexed checkpointSchema rootIndex t.rows t.findUnique? := by
  refine ⟨rfl, by decide, ?_⟩
  exact (visited_index_exact checkpointSchema_index
    [⟨[.insert (root 0 1), .insert (root 1 2)], true⟩, ⟨handover, true⟩]).1

end Table

end Depository.Store
