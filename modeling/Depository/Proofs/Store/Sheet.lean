import Depository.Proofs.Store.Index

/-! A plain sheet of rows, searched from end to end, that answers every access as an overlay does. -/

namespace Depository.Store

open Std

structure Sheet {ρ κ : Type} (s : Schema ρ κ) where
  rows : List ρ
  nextSeq : UInt64

inductive Access (ρ κ : Type)
  | insert (r : ρ)
  | upsert (r : ρ)
  | get (k : κ)
  | find (k : IndexKey)
  | allocate
  deriving DecidableEq

inductive Finding (ρ : Type)
  | done
  | row (r : Option ρ)
  | number (n : UInt64)
  deriving DecidableEq

def Finding.orStay {ρ σ : Type} (state : σ) :
    Except Failure (Finding ρ × σ) → Except Failure (Finding ρ) × σ
  | .ok (finding, next) => (.ok finding, next)
  | .error f => (.error f, state)

variable {ρ κ : Type} {s : Schema ρ κ}

namespace Sheet

variable [DecidableEq κ] (p : Sheet s)

def get? (k : κ) : Option ρ :=
  s.find? k p.rows

def findUnique? (k : IndexKey) : Option ρ := do
  let index ← s.index
  p.rows.find? fun r => index.key r = k

def allocate : Except Failure (UInt64 × Sheet s) :=
  if p.nextSeq.toNat + 1 < UInt64.size then .ok (p.nextSeq, { p with nextSeq := p.nextSeq + 1 })
  else .error (.idSpaceExhausted s.name)

variable [Ord κ]

def put (r : ρ) : Sheet s :=
  { p with rows := s.put r p.rows }

def upsert (r : ρ) : Except Failure (Sheet s) :=
  match s.index with
  | none => .ok (p.put r)
  | some index =>
    if ∃ x ∈ p.rows, s.key x ≠ s.key r ∧ index.key x = index.key r then
      .error (.duplicateEntry index.name (preview (index.key r)))
    else .ok (p.put r)

def insert (r : ρ) : Except Failure (Sheet s) :=
  if ∃ x ∈ p.rows, s.key x = s.key r then .error (.duplicateKey s.name (s.keyText (s.key r)))
  else p.upsert r

def serve : Access ρ κ → Except Failure (Finding ρ) × Sheet s
  | .insert r => Finding.orStay p ((p.insert r).map (.done, ·))
  | .upsert r => Finding.orStay p ((p.upsert r).map (.done, ·))
  | .get k => (.ok (.row (p.get? k)), p)
  | .find k => (.ok (.row (p.findUnique? k)), p)
  | .allocate => Finding.orStay p (p.allocate.map (Prod.map .number id))

end Sheet

def Table.sheet (t : Table s) : Sheet s :=
  ⟨t.rows, t.nextSeq⟩

namespace Overlay

variable [DecidableEq κ] [Ord κ] (o : Overlay s)

def sheet : Sheet s :=
  ⟨o.rows, o.nextSeq⟩

def serve : Access ρ κ → Except Failure (Finding ρ) × Overlay s
  | .insert r => Finding.orStay o ((o.insert r).map (.done, ·))
  | .upsert r => Finding.orStay o ((o.upsert r).map (.done, ·))
  | .get k => (.ok (.row (o.get? k)), o)
  | .find k => (.ok (.row (o.findUnique? k)), o)
  | .allocate => Finding.orStay o (o.allocate.map (Prod.map .number id))

def after (accesses : List (Access ρ κ)) : Overlay s :=
  accesses.foldl (fun o a => (o.serve a).2) o

def answers (o : Overlay s) : List (Access ρ κ) → List (Except Failure (Finding ρ))
  | [] => []
  | a :: accesses => (o.serve a).1 :: (o.serve a).2.answers accesses

lemma Over.sheet_apply {t : Table s} (h : o.Over t) : (t.apply o.writeSet).sheet = o.sheet := by
  rw [Table.sheet, h.rows_apply]
  rfl

lemma after_append (xs ys : List (Access ρ κ)) : o.after (xs ++ ys) = (o.after xs).after ys :=
  List.foldl_append

lemma answers_append (xs ys : List (Access ρ κ)) :
    o.answers (xs ++ ys) = o.answers xs ++ (o.after xs).answers ys := by
  induction xs generalizing o with
  | nil => rfl
  | cons x xs ih =>
    rw [List.cons_append, answers, answers, ih, List.cons_append]
    rfl

lemma serve_of_error {a : Access ρ κ} {f : Failure} (h : (o.serve a).1 = .error f) :
    (o.serve a).2 = o := by
  have hstay : ∀ x : Except Failure (Finding ρ × Overlay s), (Finding.orStay o x).1 = .error f →
      (Finding.orStay o x).2 = o := by
    intro x hx
    cases x with
    | ok => cases hx
    | error => rfl
  cases a with
  | insert | upsert | allocate => exact hstay _ h
  | get | find => rfl

variable {o} {t : Table s} [LawfulEqOrd κ]

lemma Over.get?_eq (h : o.Over t) (k : κ) : o.get? k = o.sheet.get? k :=
  h.ordered.get? k

variable [TransOrd κ]

section Reads

variable (h : o.Over t)

include h

lemma Over.findUnique?_eq (k : IndexKey) : o.findUnique? k = o.sheet.findUnique? k := by
  cases hi : s.index with
  | none => simp [Overlay.findUnique?, Sheet.findUnique?, hi]
  | some index =>
    have hsheet : o.sheet.findUnique? k = o.rows.find? fun r => index.key r = k := by
      simp only [Sheet.findUnique?, hi]
      rfl
    rw [hsheet]
    refine Option.ext fun r => ?_
    rw [h.findUnique?_eq_some_iff hi]
    constructor
    · rintro ⟨hr, hk⟩
      cases hfind : o.rows.find? fun r => index.key r = k with
      | none => exact absurd (by simpa using hk) (List.find?_eq_none.mp hfind r hr)
      | some x =>
        have hx : index.key x = k := by simpa using List.find?_some hfind
        rw [h.eq_of_index_eq hi (List.mem_of_find?_eq_some hfind) hr (hx.trans hk.symm)]
    · intro hfind
      exact ⟨List.mem_of_find?_eq_some hfind, by simpa using List.find?_some hfind⟩

lemma Over.taken_iff {r : ρ} :
    (∃ x, o.get? (s.key r) = some x) ↔ ∃ x ∈ o.rows, s.key x = s.key r :=
  exists_congr fun _ => h.get?_eq_some_iff

lemma Over.rival_iff {index : UniqueIndex ρ} (hi : s.index = some index) {r : ρ} :
    (∃ x, o.rival? index r = some x) ↔
      ∃ x ∈ o.rows, s.key x ≠ s.key r ∧ index.key x = index.key r := by
  refine exists_congr fun x => ?_
  rw [rival?, Option.filter_eq_some_iff, h.findUnique?_eq_some_iff hi, decide_eq_true_iff]
  constructor
  · rintro ⟨⟨hx, hk⟩, hne⟩
    exact ⟨hx, hne, hk⟩
  · rintro ⟨hx, hne, hk⟩
    exact ⟨⟨hx, hk⟩, hne⟩

end Reads

section Writes

variable (h : o.Over t) (r : ρ)

include h

lemma Over.upsert_eq {index : UniqueIndex ρ} (hi : s.index = some index) :
    o.upsert r =
      if ∃ x ∈ o.rows, s.key x ≠ s.key r ∧ index.key x = index.key r then
        .error (.duplicateEntry index.name (preview (index.key r)))
      else .ok (o.stage r) := by
  have hrival := h.rival_iff hi (r := r)
  cases hr : o.rival? index r with
  | none =>
    have hfree : ¬ ∃ x, o.rival? index r = some x := by simp [hr]
    rw [if_neg (mt hrival.mpr hfree)]
    simp [upsert, hi, hr, Overlay.stage]
  | some x =>
    rw [if_pos (hrival.mp ⟨x, hr⟩)]
    simp [upsert, hi, hr]

lemma Over.insert_eq :
    o.insert r =
      if ∃ x ∈ o.rows, s.key x = s.key r then .error (.duplicateKey s.name (s.keyText (s.key r)))
      else o.upsert r := by
  have htaken := h.taken_iff (r := r)
  cases hr : o.get? (s.key r) with
  | none =>
    have hfree : ¬ ∃ x, o.get? (s.key r) = some x := by simp [hr]
    rw [if_neg (mt htaken.mpr hfree), insert, hr]
  | some x => rw [if_pos (htaken.mp ⟨x, hr⟩), insert, hr]

lemma Over.sheet_stage : (o.stage r).sheet = o.sheet.put r := by
  rw [sheet, h.ordered.rows_stage]
  rfl

lemma Over.upsert_cases :
    (∃ f, o.upsert r = .error f ∧ o.sheet.upsert r = .error f) ∨
      o.upsert r = .ok (o.stage r) ∧ (o.stage r).Over t ∧
        o.sheet.upsert r = .ok (o.stage r).sheet := by
  rw [h.sheet_stage]
  cases hi : s.index with
  | none =>
    exact .inr ⟨o.upsert_of_no_index hi r, h.stage_of_no_index hi r, by simp [Sheet.upsert, hi]⟩
  | some index =>
    simp only [h.upsert_eq r hi, Sheet.upsert, hi]
    by_cases hrival : ∃ x ∈ o.rows, s.key x ≠ s.key r ∧ index.key x = index.key r
    · exact .inl ⟨_, if_pos hrival, if_pos hrival⟩
    · refine .inr ⟨if_neg hrival, h.stage fun index' hindex x hx hk => ?_, if_neg hrival⟩
      obtain rfl := Option.some.inj (hi.symm.trans hindex)
      by_contra hne
      exact hrival ⟨x, hx, hne, hk⟩

lemma Over.insert_cases :
    (∃ f, o.insert r = .error f ∧ o.sheet.insert r = .error f) ∨
      o.insert r = .ok (o.stage r) ∧ (o.stage r).Over t ∧
        o.sheet.insert r = .ok (o.stage r).sheet := by
  rw [h.insert_eq]
  by_cases htaken : ∃ x ∈ o.rows, s.key x = s.key r
  · exact .inl ⟨_, if_pos htaken, if_pos htaken⟩
  · have hsheet : o.sheet.insert r = o.sheet.upsert r := if_neg htaken
    rw [if_neg htaken, hsheet]
    exact h.upsert_cases r

lemma Over.insert_alike {o' : Overlay s} {t' : Table s} (h' : o'.Over t')
    (hsheet : o.sheet = o'.sheet) :
    (∃ f, o.insert r = .error f ∧ o'.insert r = .error f) ∨
      o.insert r = .ok (o.stage r) ∧ o'.insert r = .ok (o'.stage r) ∧
        (o.stage r).Over t ∧ (o'.stage r).Over t' ∧ (o.stage r).sheet = (o'.stage r).sheet := by
  rcases h.insert_cases r with ⟨f, ho, hp⟩ | ⟨ho, hover, hp⟩
  · rcases h'.insert_cases r with ⟨f', ho', hp'⟩ | ⟨ho', hover', hp'⟩
    · rw [hsheet, hp'] at hp
      obtain rfl := Except.error.inj hp
      exact .inl ⟨f', ho, ho'⟩
    · rw [hsheet, hp'] at hp
      cases hp
  · rcases h'.insert_cases r with ⟨f', ho', hp'⟩ | ⟨ho', hover', hp'⟩
    · rw [hsheet, hp'] at hp
      cases hp
    · rw [hsheet, hp'] at hp
      exact .inr ⟨ho, ho', hover, hover', (Except.ok.inj hp).symm⟩

end Writes

lemma Over.serve (h : o.Over t) (a : Access ρ κ) :
    (o.serve a).2.Over t ∧ ((o.serve a).1, (o.serve a).2.sheet) = o.sheet.serve a := by
  cases a with
  | insert r =>
    rcases h.insert_cases r with ⟨f, ho, hp⟩ | ⟨ho, hover, hp⟩
    · rw [Overlay.serve, ho, Sheet.serve, hp]
      exact ⟨h, rfl⟩
    · rw [Overlay.serve, ho, Sheet.serve, hp]
      exact ⟨hover, rfl⟩
  | upsert r =>
    rcases h.upsert_cases r with ⟨f, ho, hp⟩ | ⟨ho, hover, hp⟩
    · rw [Overlay.serve, ho, Sheet.serve, hp]
      exact ⟨h, rfl⟩
    · rw [Overlay.serve, ho, Sheet.serve, hp]
      exact ⟨hover, rfl⟩
  | get k =>
    rw [Overlay.serve, Sheet.serve, h.get?_eq]
    exact ⟨h, rfl⟩
  | find k =>
    rw [Overlay.serve, Sheet.serve, h.findUnique?_eq]
    exact ⟨h, rfl⟩
  | allocate =>
    rw [Overlay.serve, Sheet.serve]
    by_cases hn : o.nextSeq.toNat + 1 < UInt64.size
    · have ho : o.allocate = .ok (o.nextSeq, { o with nextSeq := o.nextSeq + 1 }) := if_pos hn
      have hp : o.sheet.allocate = .ok (o.nextSeq, ⟨o.rows, o.nextSeq + 1⟩) := if_pos hn
      rw [ho, hp]
      exact ⟨h.setNext _, rfl⟩
    · have ho : o.allocate = .error (.idSpaceExhausted s.name) := if_neg hn
      have hp : o.sheet.allocate = .error (.idSpaceExhausted s.name) := if_neg hn
      rw [ho, hp]
      exact ⟨h, rfl⟩

lemma Over.after (h : o.Over t) (accesses : List (Access ρ κ)) : (o.after accesses).Over t := by
  induction accesses generalizing o with
  | nil => exact h
  | cons a accesses ih => exact ih (h.serve a).1

lemma Over.indistinguishable {o' : Overlay s} {t' : Table s} (h : o.Over t) (h' : o'.Over t')
    (hsheet : o.sheet = o'.sheet) (accesses : List (Access ρ κ)) :
    o.answers accesses = o'.answers accesses ∧
      (o.after accesses).sheet = (o'.after accesses).sheet := by
  induction accesses generalizing o o' with
  | nil => exact ⟨rfl, hsheet⟩
  | cons a accesses ih =>
    obtain ⟨hover, hserve⟩ := h.serve a
    obtain ⟨hover', hserve'⟩ := h'.serve a
    rw [hsheet, ← hserve', Prod.mk.injEq] at hserve
    obtain ⟨hanswers, hafter⟩ := ih hover hover' hserve.2
    exact ⟨by rw [answers, answers, hserve.1, hanswers], hafter⟩

end Overlay

lemma Table.Settled.findUnique?_eq [DecidableEq κ] [Ord κ] [LawfulEqOrd κ] [TransOrd κ]
    {t : Table s} (h : t.Settled) (k : IndexKey) : t.findUnique? k = t.sheet.findUnique? k := by
  have hbegin : (Overlay.begin t).findUnique? k = t.findUnique? k := by
    cases hi : s.index with
    | none => simp [Overlay.findUnique?, Table.findUnique?, hi]
    | some index => exact Overlay.findUnique?_begin hi h.ascending (h.exact index hi) k
  rw [← hbegin]
  exact (Overlay.Over.begin h).findUnique?_eq k

end Depository.Store
