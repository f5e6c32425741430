import Depository.Proofs.Grouping

namespace Depository

structure Pending where
  books : Books
  held : List Changes := []

/-- A transaction whose changes are held, or the application of changes that were held before. To
commit a transaction is to apply its changes at once, to drop it is never to apply them. -/
inductive Move (γ : Type)
  | hold (d : Deed γ)
  | apply (i : Nat)

variable {γ : Type} [Payer γ]

def Books.changesOf (b : Books) (d : Deed γ) : Changes :=
  (((Custody.mk b d.payer).session d.audited d.stamp).enact d.acts).2.tx.changes

namespace Pending

def move (p : Pending) : Move γ → Pending
  | .hold d => { p with held := p.held ++ [p.books.changesOf d] }
  | .apply i =>
    match p.held[i]? with
    | some c => { p with books := p.books.apply c }
    | none => p

def run (p : Pending) (moves : List (Move γ)) : Pending :=
  moves.foldl move p

section Invariant

/- `P` is what holds of the books, and `Q` what holds of changes over them while they wait. -/
variable {P : Books → Prop} {Q : Books → Changes → Prop}
  (hhold : ∀ b (d : Deed γ), P b → Q b (b.changesOf d))
  (happly : ∀ b c, P b → Q b c → P (b.apply c))
  (hwait : ∀ b c c', P b → Q b c → Q b c' → Q (b.apply c) c')

include hhold happly hwait

lemma move_invariant {p : Pending} (hp : P p.books) (hheld : ∀ c ∈ p.held, Q p.books c)
    (m : Move γ) : P (p.move m).books ∧ ∀ c ∈ (p.move m).held, Q (p.move m).books c := by
  cases m with
  | hold d =>
    refine ⟨hp, fun c hc => ?_⟩
    rcases List.mem_append.mp hc with hc | hc
    · exact hheld c hc
    · obtain rfl := List.mem_singleton.mp hc
      exact hhold p.books d hp
  | apply i =>
    rw [move]
    cases hi : p.held[i]? with
    | none => exact ⟨hp, hheld⟩
    | some c =>
      have hc := hheld c (List.mem_of_getElem? hi)
      exact ⟨happly p.books c hp hc, fun c' hc' => hwait p.books c c' hp hc (hheld c' hc')⟩

lemma run_invariant {p : Pending} (hp : P p.books) (hheld : ∀ c ∈ p.held, Q p.books c)
    (moves : List (Move γ)) :
    P (p.run moves).books ∧ ∀ c ∈ (p.run moves).held, Q (p.run moves).books c := by
  induction moves generalizing p with
  | nil => exact ⟨hp, hheld⟩
  | cons m moves ih =>
    obtain ⟨hbooks, hwaiting⟩ := move_invariant hhold happly hwait hp hheld m
    exact ih hbooks hwaiting

end Invariant

end Pending

end Depository
