import Depository.Proofs.Ledger.Answers
import Mathlib.Algebra.Group.Nat.Defs

/-! Keeping a trail is seen nowhere but in the trail: forgetting it after a step is the same as
taking the step on a ledger that keeps none. -/

namespace Depository

open Store

def Step.stampedWith {γ : Type} (stamp : Stamp) : Step γ → Step γ
  | .call _ caller r => .call stamp caller r
  | .tune change => .tune change

namespace Books

variable (b : Books)

def forget : Books :=
  { b with events := {} }

lemma judge_forget (maxRootBytes : UInt64) (r : Request) :
    b.forget.judge maxRootBytes r = b.judge maxRootBytes r := by
  cases r <;> rfl

lemma carryOut_forget (kind : EventKind) : b.forget.carryOut kind = (b.carryOut kind).forget := by
  have hadjust : ∀ account amount,
      b.forget.adjustBalance account amount = (b.adjustBalance account amount).forget := by
    intro account amount
    have hdeposits : b.forget.deposits = b.deposits := rfl
    rw [adjustBalance, adjustBalance, hdeposits]
    split <;> rfl
  cases kind with
  | debited account amount balance => exact hadjust account balance
  | withdrawn receiver amount => exact hadjust b.owner _
  | deposited | orderPlaced | checkpointRecorded | ownershipTransferred => rfl

lemma enact_forget (audited : Bool) (stamp stamp' : Stamp) (kind : EventKind) :
    b.forget.enact false stamp' kind = (b.enact audited stamp kind).forget := by
  refine (b.carryOut_forget kind).trans ?_
  cases audited <;> rfl

lemma ruling_forget {b : Books} (hn : HasNext b.events.nextSeq) (settings : Settings)
    (caller : Account) (r : Request) :
    b.forget.ruling { settings with eventLog := false } caller r = b.ruling settings caller r := by
  have hroom : ∀ x, b.withRoom settings.eventLog x = b.forget.withRoom false x := by
    rintro (f | kind)
    · rfl
    · exact if_neg fun hfull => hfull.2 hn
  rw [ruling, ruling, judge_forget, hroom]
  rfl

end Books

namespace Ledger

variable {γ : Type}

def unaudited (l : Ledger γ) : Ledger γ :=
  ⟨l.books.forget, { l.settings with eventLog := false }, l.payer⟩

/-- The second ledger holds what the first one holds, and no trail. -/
structure SameButTrail (l l' : Ledger γ) : Prop where
  owner : l.owner = l'.owner
  deposits : l.books.deposits = l'.books.deposits
  orders : l.books.orders = l'.books.orders
  checkpoints : l.books.checkpoints = l'.books.checkpoints
  findCheckpoint : ∀ root, l.findCheckpoint root = l'.findCheckpoint root
  payer : l.payer = l'.payer
  events : l'.events = []
  nextEvent : l'.books.events.nextSeq = 0

lemma sameButTrail_unaudited (l : Ledger γ) : l.SameButTrail l.unaudited :=
  ⟨rfl, rfl, rfl, rfl, fun _ => rfl, rfl, rfl, rfl⟩

variable [Payer γ] {l : Ledger γ}

def answers (l : Ledger γ) : List (Step γ) → List (Option (Except Abort Reply))
  | [] => []
  | s :: steps => l.answer s :: (l.step s).answers steps

lemma follow_unaudited (stamp stamp' : Stamp) (ruling : Except Failure EventKind) :
    l.unaudited.follow stamp' ruling = (l.follow stamp ruling).map id unaudited := by
  cases ruling with
  | error f => rfl
  | ok kind =>
    have henact := l.books.enact_forget l.settings.eventLog stamp stamp' kind
    simp only [follow, settle, unaudited, henact]
    cases kind.payout? with
    | none => rfl
    | some i =>
      dsimp only
      rcases Payer.pay l.payer i with ⟨_ | reason | _, p⟩ <;> rfl

lemma step_unaudited (h : l.books.Sound) (hn : HasNext l.books.events.nextSeq) (stamp : Stamp)
    (s : Step γ) :
    l.unaudited.answer (s.stampedWith stamp) = l.answer s ∧
      l.unaudited.step (s.stampedWith stamp) = (l.step s).unaudited := by
  cases s with
  | tune change => exact ⟨rfl, rfl⟩
  | call stamp' caller r =>
    have hforgotten : l.unaudited.books.Sound := { h with events := Schema.Serial.nil }
    have hperform := perform_eq hforgotten stamp caller r
    have hruling : l.unaudited.books.ruling l.unaudited.settings caller r =
        l.books.ruling l.settings caller r := Books.ruling_forget hn l.settings caller r
    rw [hruling, follow_unaudited stamp', ← perform_eq h stamp' caller r, Prod.map_apply,
      Prod.mk.injEq] at hperform
    exact ⟨congrArg some hperform.1, hperform.2⟩

lemma hasNext_of_step (h : l.books.Sound) {s : Step γ}
    (hn : HasNext (l.step s).books.events.nextSeq) : HasNext l.books.events.nextSeq := by
  rcases step_cases h s with ⟨-, hb | ⟨stamp, kind, -, hroom, hb⟩⟩
  · exact hb ▸ hn
  · cases ha : l.settings.eventLog with
    | true => exact hroom ha
    | false =>
      rw [hb, ha] at hn
      exact Books.carryOut_events l.books kind ▸ hn

lemma hasNext_of_run (h : l.books.Sound) {steps : List (Step γ)}
    (hn : HasNext (l.run steps).books.events.nextSeq) : HasNext l.books.events.nextSeq := by
  induction steps generalizing l with
  | nil => exact hn
  | cons s steps ih => exact hasNext_of_step h (ih (h.step s) hn)

lemma hasNext_of_take (h : l.books.Sound) {steps : List (Step γ)}
    (hn : HasNext (l.run steps).books.events.nextSeq) (n : Nat) :
    HasNext (l.run (steps.take n)).books.events.nextSeq := by
  rw [← List.take_append_drop n steps, run_append] at hn
  exact hasNext_of_run (h.run _) hn

lemma run_unaudited (h : l.books.Sound) {steps : List (Stamp × Step γ)}
    (hn : HasNext (l.run (steps.map Prod.snd)).books.events.nextSeq) :
    l.unaudited.answers (steps.map fun s => s.2.stampedWith s.1) =
        l.answers (steps.map Prod.snd) ∧
      l.unaudited.run (steps.map fun s => s.2.stampedWith s.1) =
        (l.run (steps.map Prod.snd)).unaudited := by
  induction steps generalizing l with
  | nil => exact ⟨rfl, rfl⟩
  | cons s steps ih =>
    -- The trail never shrinks, so there is room at every step if there is room in the end.
    obtain ⟨hanswer, hstep⟩ := step_unaudited h (hasNext_of_run h hn) s.1 s.2
    obtain ⟨hanswers, hrun⟩ := ih (h.step s.2) hn
    rw [List.map_cons, List.map_cons, answers, answers, run_cons, run_cons, hanswer, hstep]
    exact ⟨congrArg (l.answer s.2 :: ·) hanswers, hrun⟩

/-- Two ledgers of which one keeps a trail and the other does not give the same answers, and hold
the same at every point, as long as the trail has room. -/
theorem trail_immaterial {settings : Settings} {payer : γ} {l l' : Ledger γ}
    {log log' : List LogRecord}
    (hl : create { settings with eventLog := true } payer = .ok (l, log))
    (hl' : create { settings with eventLog := false } payer = .ok (l', log'))
    (steps : List (Stamp × Step γ))
    (hroom : (l.run (steps.map Prod.snd)).events.length < 2 ^ 64 - 1) :
    l.answers (steps.map Prod.snd) = l'.answers (steps.map fun s => s.2.stampedWith s.1) ∧
      ∀ n, (l.run ((steps.take n).map Prod.snd)).SameButTrail
        (l'.run ((steps.take n).map fun s => s.2.stampedWith s.1)) := by
  have hsound : l.books.Sound := (create_eq_ok_iff.mp hl).2.1 ▸ Books.Sound.opened settings.owner
  have hforgotten : l.unaudited = l' := by
    rw [(create_eq_ok_iff.mp hl).2.1, (create_eq_ok_iff.mp hl').2.1]
    rfl
  have hn : HasNext (l.run (steps.map Prod.snd)).books.events.nextSeq := by
    rw [events, (hsound.run _).events.length] at hroom
    exact Nat.add_lt_of_lt_sub hroom
  refine ⟨?_, fun n => ?_⟩
  · rw [← hforgotten]
    exact (run_unaudited hsound hn).1.symm
  · have htake := hasNext_of_take hsound hn n
    rw [← List.map_take] at htake
    rw [← hforgotten, (run_unaudited hsound htake).2]
    exact sameButTrail_unaudited _

theorem trail_immaterial_interrupted :
    let turns : List Turn :=
      [.call (.ofSeconds 0) ⟨"keeper"⟩ (.deposit ⟨"keeper"⟩ 5), .breakNext,
        .call (.ofSeconds 1) ⟨"keeper"⟩ (.withdraw ⟨"ann"⟩ 3),
        .call (.ofSeconds 2) ⟨"keeper"⟩ (.withdraw ⟨"ann"⟩ 3)]
    ∃ l l' log log',
      create { owner := ⟨"keeper"⟩, eventLog := true } ({} : RecordingPayer) = .ok (l, log) ∧
      create { owner := ⟨"keeper"⟩, eventLog := false } ({} : RecordingPayer) = .ok (l', log') ∧
      (l.run (turns.map Turn.step)).events.length = 2 ∧
      l.answers (turns.map Turn.step) =
        l'.answers (turns.map fun t => t.step.stampedWith (.ofSeconds 9)) ∧
      (l.run (turns.map Turn.step)).SameButTrail
        (l'.run (turns.map fun t => t.step.stampedWith (.ofSeconds 9))) := by
  intro turns
  have hl : create { owner := ⟨"keeper"⟩, eventLog := true } ({} : RecordingPayer) = .ok
      (⟨{ owner := ⟨"keeper"⟩ }, { owner := ⟨"keeper"⟩, eventLog := true }, {}⟩, _) :=
    create_eq_ok_iff.mpr ⟨by decide, rfl, rfl⟩
  have hl' : create { owner := ⟨"keeper"⟩, eventLog := false } ({} : RecordingPayer) = .ok
      (⟨{ owner := ⟨"keeper"⟩ }, { owner := ⟨"keeper"⟩, eventLog := false }, {}⟩, _) :=
    create_eq_ok_iff.mpr ⟨by decide, rfl, rfl⟩
  obtain ⟨hanswers, hsame⟩ := @trail_immaterial RecordingPayer _ { owner := ⟨"keeper"⟩ } {} _ _ _ _
    hl hl' (turns.map fun t => (.ofSeconds 9, t.step)) (by decide)
  exact ⟨_, _, _, _, hl, hl', by decide, hanswers, hsame 4⟩

end Ledger

end Depository
