import Depository.Ledger.Shared
import Depository.Proofs.Ledger.Answers
import Mathlib.Logic.Function.Basic

namespace Depository

/-- The steps of several clients in the order in which they take their turns. A client with no step
left is passed over. -/
def interleave {ι α : Type} [DecidableEq ι] : (ι → List α) → List ι → List α
  | _, [] => []
  | programs, i :: turns =>
    match programs i with
    | [] => interleave programs turns
    | a :: rest => a :: interleave (Function.update programs i rest) turns

lemma exists_interleave_append {ι α : Type} [DecidableEq ι] (programs : ι → List α)
    (turns later : List ι) :
    ∃ steps, interleave programs (turns ++ later) = interleave programs turns ++ steps := by
  induction turns generalizing programs with
  | nil => exact ⟨_, rfl⟩
  | cons i turns ih =>
    rw [List.cons_append, interleave, interleave]
    cases programs i with
    | nil => exact ih programs
    | cons a rest =>
      obtain ⟨steps, hsteps⟩ := ih (Function.update programs i rest)
      exact ⟨steps, congrArg (a :: ·) hsteps⟩

namespace SharedLedger

variable {γ : Type} [Payer γ] {l : SharedLedger γ}

def step (l : SharedLedger γ) : Step γ → SharedLedger γ
  | .call stamp caller r => (l.perform stamp caller r).2.1
  | .tune change => { l with ledger := { l.ledger with payer := change l.ledger.payer } }

def run (l : SharedLedger γ) (steps : List (Step γ)) : SharedLedger γ :=
  steps.foldl step l

def answered? (l : SharedLedger γ) : Step γ → Option Answered
  | .call stamp caller r =>
    match (l.perform stamp caller r).1 with
    | .ok reply => some ⟨l.ledger.owner, caller, r, reply⟩
    | .error _ => none
  | .tune _ => none

def answered (l : SharedLedger γ) : List (Step γ) → List Answered
  | [] => []
  | s :: steps => (l.answered? s).toList ++ (l.step s).answered steps

/-- The lock lets no request through once it is poisoned. What the payer does by itself is not under
the lock. -/
def hears (l : SharedLedger γ) : Step γ → Bool
  | .call .. => !l.poisoned
  | .tune _ => true

def heard (l : SharedLedger γ) : List (Step γ) → List (Step γ)
  | [] => []
  | s :: steps => if l.hears s then s :: (l.step s).heard steps else (l.step s).heard steps

lemma step_of_hears {s : Step γ} (h : l.hears s = true) :
    (l.step s).ledger = l.ledger.step s ∧ l.answered? s = l.ledger.answered? s := by
  cases s with
  | tune change => exact ⟨rfl, rfl⟩
  | call stamp caller r =>
    have hopen : ¬ l.poisoned = true := by simpa [hears] using h
    simp only [step, answered?, perform, if_neg hopen]
    exact ⟨rfl, rfl⟩

lemma step_of_not_hears {s : Step γ} (h : ¬ l.hears s = true) :
    l.step s = l ∧ l.answered? s = none := by
  cases s with
  | tune change => exact absurd rfl h
  | call stamp caller r =>
    have hpoisoned : l.poisoned = true := by simpa [hears] using h
    simp [step, answered?, perform, hpoisoned]

lemma run_heard (steps : List (Step γ)) :
    (l.run steps).ledger = l.ledger.run (l.heard steps) ∧
      l.answered steps = l.ledger.answered (l.heard steps) := by
  induction steps generalizing l with
  | nil => exact ⟨rfl, rfl⟩
  | cons s steps ih =>
    obtain ⟨hrun, hanswered⟩ := @ih (l.step s)
    rw [heard, answered, hanswered]
    by_cases h : l.hears s = true
    · obtain ⟨hstep, hanswer⟩ := step_of_hears h
      rw [if_pos h, Ledger.run_cons, Ledger.answered, hanswer, ← hstep]
      exact ⟨hrun, rfl⟩
    · obtain ⟨hstep, hanswer⟩ := step_of_not_hears h
      have hledger : (l.step s).ledger = l.ledger := by rw [hstep]
      rw [if_neg h, hanswer, ← hledger]
      exact ⟨hrun, rfl⟩

lemma heard_append (steps later : List (Step γ)) :
    l.heard (steps ++ later) = l.heard steps ++ (l.run steps).heard later := by
  induction steps generalizing l with
  | nil => rfl
  | cons s steps ih =>
    rw [List.cons_append, heard, heard, ih]
    split <;> rfl

lemma exists_steps_interleave {ι : Type} [DecidableEq ι] (l : SharedLedger γ)
    (programs : ι → List (Step γ)) (turns later : List ι) :
    ∃ steps rest, (l.run (interleave programs turns)).ledger = l.ledger.run steps ∧
      l.answered (interleave programs turns) = l.ledger.answered steps ∧
      (l.run (interleave programs (turns ++ later))).ledger = l.ledger.run (steps ++ rest) := by
  obtain ⟨steps, hsteps⟩ := exists_interleave_append programs turns later
  obtain ⟨hledger, hanswered⟩ := run_heard (l := l) (interleave programs turns)
  refine ⟨_, (l.run (interleave programs turns)).heard steps, hledger, hanswered, ?_⟩
  rw [hsteps, (run_heard _).1, heard_append]

end SharedLedger

end Depository
