import Depository.Proofs.Ledger.Perform

namespace Depository

/-- What happens to a ledger. The payer may also change of its own accord. -/
inductive Step (γ : Type)
  | call (stamp : Stamp) (caller : Account) (request : Request)
  | tune (change : γ → γ)

inductive Turn
  | call (stamp : Stamp) (caller : Account) (request : Request)
  | block (receiver : Account)
  | rejectAll (reason : Option String)
  | breakNext

def Turn.step : Turn → Step RecordingPayer
  | call stamp caller r => .call stamp caller r
  | block receiver => .tune (·.block receiver)
  | rejectAll reason => .tune (·.rejectAll reason)
  | breakNext => .tune (·.breakNext)

def Payer.Refuses {γ : Type} [Payer γ] (p p' : γ) : Prop :=
  p' = p ∨ ∃ i, (Payer.pay p i).1 ≠ .accepted ∧ p' = (Payer.pay p i).2

def Payer.Settles {γ : Type} [Payer γ] (kind : EventKind) (p p' : γ) : Prop :=
  match kind.payout? with
  | none => p' = p
  | some i => Payer.pay p i = (.accepted, p')

namespace Ledger

variable {γ : Type} [Payer γ] {l : Ledger γ}

def step (l : Ledger γ) : Step γ → Ledger γ
  | .call stamp caller r => (l.perform stamp caller r).ledger
  | .tune change => { l with payer := change l.payer }

def answer (l : Ledger γ) : Step γ → Option (Except Abort Reply)
  | .call stamp caller r => some (l.perform stamp caller r).outcome
  | .tune _ => none

def run (l : Ledger γ) (steps : List (Step γ)) : Ledger γ :=
  steps.foldl step l

@[simp] lemma run_nil : l.run [] = l := rfl

@[simp] lemma run_cons (s : Step γ) (steps : List (Step γ)) :
    l.run (s :: steps) = (l.step s).run steps := rfl

lemma run_invariant {P : Ledger γ → Prop} (h : P l) (steps : List (Step γ))
    (hstep : ∀ s ∈ steps, ∀ k, P k → P (k.step s)) : P (l.run steps) := by
  induction steps generalizing l with
  | nil => exact h
  | cons s steps ih =>
    have hhead := hstep s (List.mem_cons_self ..) l h
    exact ih hhead fun t ht => hstep t (List.mem_cons_of_mem s ht)

omit [Payer γ] in
lemma create_eq_ok_iff {settings : Settings} {payer : γ} {log : List LogRecord} :
    create settings payer = .ok (l, log) ↔ settings.validate = .ok () ∧
      l = ⟨{ owner := settings.owner }, settings, payer⟩ ∧
      log = [.ledgerOpened version settings.owner settings.maxRootBytes settings.eventLog] := by
  rw [create]
  cases hv : settings.validate with
  | ok => simp [pure, Except.pure, bind, Except.bind, eq_comm]
  | error f => simp [bind, Except.bind]

omit [Payer γ] in
lemma sound_of_create {settings : Settings} {payer : γ} {log : List LogRecord}
    (hl : create settings payer = .ok (l, log)) : l.books.Sound :=
  (create_eq_ok_iff.mp hl).2.1 ▸ .opened settings.owner

/-- An answer means that one event has been carried out; otherwise the books are what they were. -/
lemma perform_cases (h : l.books.Sound) (stamp : Stamp) (caller : Account) (r : Request) :
    (∃ e p, (l.perform stamp caller r).outcome = .error e ∧
      (l.perform stamp caller r).ledger = { l with payer := p } ∧ Payer.Refuses l.payer p) ∨
    ∃ kind p, l.books.ruling l.settings caller r = .ok kind ∧
      (l.perform stamp caller r).outcome = .ok kind.reply ∧
      (l.perform stamp caller r).ledger =
        { l with books := l.books.enact l.settings.eventLog stamp kind, payer := p } ∧
      Payer.Settles kind l.payer p := by
  have hperform := perform_eq h stamp caller r
  cases hr : l.books.ruling l.settings caller r with
  | error f =>
    rw [hr, follow, Prod.mk.injEq] at hperform
    exact .inl ⟨_, l.payer, hperform.1, hperform.2, .inl rfl⟩
  | ok kind =>
    rw [hr, follow] at hperform
    cases hk : kind.payout? with
    | none =>
      simp only [settle, hk, Prod.mk.injEq] at hperform
      exact .inr ⟨kind, l.payer, rfl, hperform.1, hperform.2, by simp [Payer.Settles, hk]⟩
    | some i =>
      simp only [settle, hk] at hperform
      rcases hp : Payer.pay l.payer i with ⟨_ | reason | _, p⟩
      · rw [hp, Prod.mk.injEq] at hperform
        exact .inr ⟨kind, p, rfl, hperform.1, hperform.2, by simp [Payer.Settles, hk, hp]⟩
      · rw [hp, Prod.mk.injEq] at hperform
        exact .inl ⟨_, p, hperform.1, hperform.2, .inr ⟨i, by simp [hp], by simp [hp]⟩⟩
      · rw [hp, Prod.mk.injEq] at hperform
        exact .inl ⟨_, p, hperform.1, hperform.2, .inr ⟨i, by simp [hp], by simp [hp]⟩⟩

lemma step_cases (h : l.books.Sound) (s : Step γ) :
    (l.step s).settings = l.settings ∧ ((l.step s).books = l.books ∨
      ∃ stamp kind, l.books.Warrants kind ∧
        (l.settings.eventLog = true → HasNext l.books.events.nextSeq) ∧
        (l.step s).books = l.books.enact l.settings.eventLog stamp kind) := by
  cases s with
  | tune change => exact ⟨rfl, .inl rfl⟩
  | call stamp caller r =>
    rcases perform_cases h stamp caller r with
      ⟨e, p, -, hl, -⟩ | ⟨kind, p, hr, -, hl, -⟩
    · exact ⟨by rw [step, hl], .inl (by rw [step, hl])⟩
    · obtain ⟨-, hj, hn⟩ := Books.ruling_eq_ok_iff.mp hr
      exact ⟨by rw [step, hl],
        .inr ⟨stamp, kind, Books.judge_warrants hj, hn, by rw [step, hl]⟩⟩

lemma step_settings (h : l.books.Sound) (s : Step γ) : (l.step s).settings = l.settings :=
  (step_cases h s).1

lemma accepted_of_refuses {p p' : RecordingPayer} (h : Payer.Refuses p p') :
    p'.accepted = p.accepted := by
  rcases h with rfl | ⟨i, hi, rfl⟩
  · rfl
  · simp only [Payer.pay, RecordingPayer.pay] at hi ⊢
    split
    · rfl
    · split
      · rfl
      · split
        · rfl
        · simp_all

lemma accepted_of_settles {kind : EventKind} {p p' : RecordingPayer}
    (h : Payer.Settles kind p p') : p'.accepted = p.accepted ++ kind.payout?.toList := by
  cases hk : kind.payout? with
  | none =>
    simp only [Payer.Settles, hk] at h
    simp [h]
  | some i =>
    simp only [Payer.Settles, hk, Payer.pay, RecordingPayer.pay] at h
    split at h
    · simp at h
    · split at h
      · simp at h
      · split at h
        · simp at h
        · obtain ⟨-, rfl⟩ := Prod.mk.inj h
          rfl

end Ledger

lemma Books.Sound.step {γ : Type} [Payer γ] {l : Ledger γ} (h : l.books.Sound) (s : Step γ) :
    (l.step s).books.Sound := by
  rcases Ledger.step_cases h s with ⟨-, hb | ⟨stamp, kind, hw, hn, hb⟩⟩
  · rw [hb]
    exact h
  · rw [hb]
    exact h.enact hw hn stamp

lemma Books.Sound.run {γ : Type} [Payer γ] {l : Ledger γ} (h : l.books.Sound)
    (steps : List (Step γ)) : (l.run steps).books.Sound :=
  Ledger.run_invariant (P := fun k => k.books.Sound) h steps fun s _ _ hk => hk.step s

lemma Ledger.settings_run {γ : Type} [Payer γ] {l : Ledger γ} (h : l.books.Sound)
    (steps : List (Step γ)) : (l.run steps).settings = l.settings := by
  have hrun := run_invariant (P := fun k => k.books.Sound ∧ k.settings = l.settings) ⟨h, rfl⟩
    steps fun s _ k hk => ⟨hk.1.step s, (step_settings hk.1 s).trans hk.2⟩
  exact hrun.2

end Depository
