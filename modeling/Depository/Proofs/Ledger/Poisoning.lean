import Depository.Proofs.Ledger.Payouts
import Depository.Proofs.Ledger.Shared

namespace Depository

inductive Op (γ α : Type)
  | step (s : Step γ)
  | query (q : Ledger γ → α)

inductive Response (α : Type)
  | outcome (o : Except Abort Reply)
  | view (v : Except Failure α)

namespace Op

variable {γ α : Type}

def step? : Op γ α → Option (Step γ)
  | step s => some s
  | query _ => none

def tune? : Op γ α → Option (γ → γ)
  | step (.tune change) => some change
  | _ => none

def lockedOut : Op γ α → Option (Response α)
  | step (.call ..) => some (.outcome (.error (.failed SharedLedger.lockFailure)))
  | step (.tune _) => none
  | query _ => some (.view (.error SharedLedger.lockFailure))

end Op

def Response.isPanic {α : Type} : Option (Response α) → Bool
  | some (.outcome (.error .panicked)) => true
  | _ => false

lemma Op.isPanic_lockedOut {γ α : Type} (op : Op γ α) : Response.isPanic op.lockedOut = false := by
  cases op with
  | query q => rfl
  | step s => cases s <;> rfl

lemma Response.eq_of_isPanic {α : Type} {x : Option (Response α)} (h : isPanic x = true) :
    x = some (.outcome (.error .panicked)) := by
  unfold isPanic at h
  split at h
  case h_1 => rfl
  case h_2 => cases h

def Payer.tuned {γ α : Type} (p : γ) (ops : List (Op γ α)) : γ :=
  (ops.filterMap Op.tune?).foldl (fun p change => change p) p

namespace Ledger

variable {γ α : Type} [Payer γ]

def operate (l : Ledger γ) : Op γ α → Ledger γ
  | .step s => l.step s
  | .query _ => l

def respond (l : Ledger γ) : Op γ α → Option (Response α)
  | .step s => (l.answer s).map .outcome
  | .query q => some (.view (.ok (q l)))

def operateAll (l : Ledger γ) (ops : List (Op γ α)) : Ledger γ :=
  ops.foldl operate l

def responses (l : Ledger γ) : List (Op γ α) → List (Option (Response α))
  | [] => []
  | op :: ops => l.respond op :: (l.operate op).responses ops

end Ledger

namespace SharedLedger

variable {γ α : Type} [Payer γ]

def operate (l : SharedLedger γ) : Op γ α → SharedLedger γ
  | .step s => l.step s
  | .query _ => l

def respond (l : SharedLedger γ) : Op γ α → Option (Response α)
  | .step (.call stamp caller r) => some (.outcome (l.perform stamp caller r).1)
  | .step (.tune _) => none
  | .query q => some (.view (l.consult q))

def asks (l : SharedLedger γ) : Op γ α → List (Instruction × Verdict)
  | .step (.call stamp caller r) =>
    ((⟨l.ledger.watched, l.poisoned⟩ : SharedLedger (Watched γ)).perform stamp caller
      r).2.1.ledger.payer.asked
  | .step (.tune _) | .query _ => []

def operateAll (l : SharedLedger γ) (ops : List (Op γ α)) : SharedLedger γ :=
  ops.foldl operate l

def responses (l : SharedLedger γ) : List (Op γ α) → List (Option (Response α))
  | [] => []
  | op :: ops => l.respond op :: (l.operate op).responses ops

def asked (l : SharedLedger γ) : List (Op γ α) → List (Instruction × Verdict)
  | [] => []
  | op :: ops => l.asks op ++ (l.operate op).asked ops

end SharedLedger

/-- The payer has panicked over a withdrawal of the owner's that nothing else stands against, and
nothing of the operation lasts but the state in which it has left the payer. -/
structure Ledger.BreaksDown {γ α : Type} [Payer γ] (l : Ledger γ) (op : Op γ α) (p : γ) :
    Prop where
  withdraws : ∃ stamp i, op = .step (.call stamp l.owner (.withdraw i.receiver i.amount)) ∧
    i.amount ≤ l.balanceOf l.owner ∧ Payer.pay l.payer i = (.panicked, p)
  panics : l.respond op = some (.outcome (.error .panicked))
  ledger : l.operate op = { l with payer := p }

/-- The operation poisons the lock of a ledger that is fresh before the first operations: later ones
are locked out, the payer is not asked again, and only its own doings go on. -/
structure Ledger.Poisons {γ α : Type} [Payer γ] (l : Ledger γ) (before : List (Op γ α))
    (op : Op γ α) (later : List (Op γ α)) (p : γ) : Prop where
  breaks : (l.operateAll before).BreaksDown op p
  reached : (⟨l, false⟩ : SharedLedger γ).operateAll before = ⟨l.operateAll before, false⟩
  responses : (⟨l, false⟩ : SharedLedger γ).responses (before ++ op :: later) =
    l.responses before ++ some (.outcome (.error .panicked)) :: later.map Op.lockedOut
  left : (⟨l, false⟩ : SharedLedger γ).operateAll (before ++ op :: later) =
    ⟨{ l.operateAll before with payer := Payer.tuned p later }, true⟩
  unasked : ((⟨l, false⟩ : SharedLedger γ).operateAll (before ++ [op])).asked later = []

namespace Ledger

variable {γ α : Type} [Payer γ] {l : Ledger γ}

lemma operateAll_append (ops later : List (Op γ α)) :
    l.operateAll (ops ++ later) = (l.operateAll ops).operateAll later :=
  List.foldl_append

lemma responses_append (ops later : List (Op γ α)) :
    l.responses (ops ++ later) = l.responses ops ++ (l.operateAll ops).responses later := by
  induction ops generalizing l with
  | nil => rfl
  | cons op ops ih => exact congrArg (l.respond op :: ·) ih

lemma operateAll_eq_run (ops : List (Op γ α)) : l.operateAll ops = l.run (ops.filterMap Op.step?) := by
  induction ops generalizing l with
  | nil => rfl
  | cons op ops ih =>
    cases op with
    | step s => exact @ih (l.step s)
    | query q => exact ih

lemma sound_operateAll (h : l.books.Sound) (ops : List (Op γ α)) :
    (l.operateAll ops).books.Sound := by
  rw [operateAll_eq_run]
  exact h.run _

lemma perform_panicked (h : l.books.Sound) {stamp : Stamp} {caller : Account} {r : Request}
    (ho : (l.perform stamp caller r).outcome = .error .panicked) :
    ∃ i p, r = .withdraw i.receiver i.amount ∧ caller = l.owner ∧
      i.amount ≤ l.balanceOf l.owner ∧ Payer.pay l.payer i = (.panicked, p) ∧
      (l.perform stamp caller r).ledger = { l with payer := p } := by
  cases hr : l.books.ruling l.settings caller r with
  | error f => cases ho.symm.trans (perform_refused h stamp hr).1
  | ok kind =>
    have hpayout := Books.ruling_payout hr
    cases hp : r.payout? with
    | none => cases ho.symm.trans (perform_unpaid h stamp hr (hpayout.trans hp)).1
    | some i =>
      obtain rfl := Request.eq_withdraw hp
      obtain ⟨hcaller, hle, hv, hl⟩ := perform_withdraw h stamp hr
      rcases hpay : Payer.pay l.payer i with ⟨_ | reason | _, p⟩
      · simp [hpay, Verdict.outcome, ho] at hv
      · simp [hpay, Verdict.outcome, ho] at hv
      · rw [hpay] at hl
        exact ⟨i, p, rfl, hcaller, hle, hpay, hl⟩

end Ledger

namespace SharedLedger

variable {γ α : Type} [Payer γ] {l : SharedLedger γ}

lemma operateAll_append (ops later : List (Op γ α)) :
    l.operateAll (ops ++ later) = (l.operateAll ops).operateAll later :=
  List.foldl_append

lemma responses_append (ops later : List (Op γ α)) :
    l.responses (ops ++ later) = l.responses ops ++ (l.operateAll ops).responses later := by
  induction ops generalizing l with
  | nil => rfl
  | cons op ops ih => exact congrArg (l.respond op :: ·) ih

lemma operate_open (h : l.poisoned = false) (op : Op γ α) :
    l.respond op = l.ledger.respond op ∧
      l.operate op = ⟨l.ledger.operate op, Response.isPanic (l.respond op)⟩ := by
  obtain ⟨ledger, poisoned⟩ := l
  obtain rfl : poisoned = false := h
  cases op with
  | query q => exact ⟨rfl, rfl⟩
  | step s =>
    cases s with
    | tune change => exact ⟨rfl, rfl⟩
    | call stamp caller r =>
      refine ⟨rfl, congrArg (SharedLedger.mk _) ?_⟩
      show Performed.panicked _ = Response.isPanic (some (.outcome (ledger.perform _ _ _).outcome))
      rw [Performed.panicked]
      rcases (ledger.perform stamp caller r).outcome with (f | _) | reply <;> rfl

lemma operate_poisoned (h : l.poisoned = true) (op : Op γ α) :
    l.respond op = op.lockedOut ∧ l.asks op = [] ∧
      l.operate op = ⟨{ l.ledger with payer := Payer.tuned l.ledger.payer [op] }, true⟩ := by
  obtain ⟨ledger, poisoned⟩ := l
  obtain rfl : poisoned = true := h
  cases op with
  | query q => exact ⟨rfl, rfl, rfl⟩
  | step s => cases s <;> exact ⟨rfl, rfl, rfl⟩

lemma run_open (h : l.poisoned = false) {ops : List (Op γ α)}
    (hcalm : (l.responses ops).any Response.isPanic = false) :
    l.responses ops = l.ledger.responses ops ∧
      l.operateAll ops = ⟨l.ledger.operateAll ops, false⟩ := by
  induction ops generalizing l with
  | nil => exact ⟨rfl, by rw [← h]; rfl⟩
  | cons op ops ih =>
    obtain ⟨hrespond, hoperate⟩ := operate_open h op
    rw [responses, List.any_cons, Bool.or_eq_false_iff] at hcalm
    obtain ⟨hop, hops⟩ := hcalm
    rw [hop] at hoperate
    rw [hoperate] at hops
    obtain ⟨hresponses, hrun⟩ := ih (l := ⟨l.ledger.operate op, false⟩) rfl hops
    constructor
    · rw [responses, Ledger.responses, hrespond, hoperate, hresponses]
    · rw [operateAll, List.foldl_cons, hoperate]
      exact hrun

lemma run_poisoned (h : l.poisoned = true) (ops : List (Op γ α)) :
    l.responses ops = ops.map Op.lockedOut ∧ l.asked ops = [] ∧
      l.operateAll ops = ⟨{ l.ledger with payer := Payer.tuned l.ledger.payer ops }, true⟩ := by
  induction ops generalizing l with
  | nil => exact ⟨rfl, rfl, by rw [← h]; rfl⟩
  | cons op ops ih =>
    obtain ⟨hrespond, hasks, hoperate⟩ := operate_poisoned h op
    obtain ⟨hresponses, hasked, hrun⟩ := ih (l := l.operate op) (by rw [hoperate])
    refine ⟨?_, ?_, ?_⟩
    · rw [responses, hrespond, hresponses, List.map_cons]
    · rw [asked, hasks, hasked, List.append_nil]
    · rw [operateAll, List.foldl_cons, ← operateAll, hrun, hoperate]
      cases op with
      | query q => rfl
      | step s => cases s <;> rfl

lemma poisoned_run (ops : List (Op γ α)) :
    (l.operateAll ops).poisoned = (l.poisoned || (l.responses ops).any Response.isPanic) := by
  induction ops generalizing l with
  | nil => exact (Bool.or_false _).symm
  | cons op ops ih =>
    have hrun := ih (l := l.operate op)
    rw [responses, List.any_cons, operateAll, List.foldl_cons, ← operateAll, hrun, ← Bool.or_assoc]
    cases h : l.poisoned with
    | false => rw [(operate_open h op).2, Bool.false_or]
    | true => simp only [(operate_poisoned h op).2.2, Bool.true_or]

lemma countP_isPanic_le (ops : List (Op γ α)) :
    (l.responses ops).countP Response.isPanic ≤ 1 := by
  induction ops generalizing l with
  | nil => exact Nat.zero_le 1
  | cons op ops ih =>
    by_cases hop : Response.isPanic (l.respond op) = true
    · -- After this panic there is none, as the lock is poisoned.
      have hpoisoned : (l.operate op).poisoned = true := by
        have hrun := poisoned_run (l := l) [op]
        rw [responses, List.any_cons, hop, Bool.true_or, Bool.or_true] at hrun
        exact hrun
      have hnone : (l.operate op).responses ops = _ := (run_poisoned hpoisoned ops).1
      have hzero : ((l.operate op).responses ops).countP Response.isPanic = 0 := by
        rw [hnone, List.countP_map]
        exact List.countP_eq_zero.mpr fun x _ => by simp [Op.isPanic_lockedOut]
      rw [responses, List.countP_cons_of_pos hop]
      omega
    · rw [responses, List.countP_cons_of_neg hop]
      exact ih

end SharedLedger

namespace Ledger

variable {γ α : Type} [Payer γ] {l : Ledger γ}

lemma breaksDown (h : l.books.Sound) {op : Op γ α} (hop : Response.isPanic (l.respond op) = true) :
    ∃ p, l.BreaksDown op p := by
  have hpanics := Response.eq_of_isPanic hop
  match op with
  | .query q => cases hpanics
  | .step (.tune change) => cases hpanics
  | .step (.call stamp caller r) =>
    have ho : (l.perform stamp caller r).outcome = .error .panicked :=
      Response.outcome.inj (Option.some.inj hpanics)
    obtain ⟨i, p, rfl, rfl, hle, hpay, hl⟩ := perform_panicked h ho
    exact ⟨p, ⟨stamp, i, rfl, hle, hpay⟩, hpanics, hl⟩

lemma poisons (h : l.books.Sound) {before later : List (Op γ α)} {op : Op γ α}
    (hop : Response.isPanic
      (((⟨l, false⟩ : SharedLedger γ).operateAll before).respond op) = true) :
    ∃ p, l.Poisons before op later p := by
  -- A poisoned lock does not panic, so it was open all the way up to here.
  have hopen : ((⟨l, false⟩ : SharedLedger γ).operateAll before).poisoned = false := by
    by_contra hpoisoned
    rw [(SharedLedger.operate_poisoned (by simpa using hpoisoned) op).1,
      Op.isPanic_lockedOut] at hop
    cases hop
  have hcalm := SharedLedger.poisoned_run (l := ⟨l, false⟩) before
  rw [hopen, Bool.false_or] at hcalm
  obtain ⟨hresponses, hreached⟩ := SharedLedger.run_open (l := ⟨l, false⟩) rfl hcalm.symm
  rw [hreached] at hop
  obtain ⟨hrespond, hoperate⟩ :=
    SharedLedger.operate_open (l := ⟨l.operateAll before, false⟩) rfl op
  rw [hop] at hoperate
  rw [hrespond] at hop
  obtain ⟨p, hp⟩ := breaksDown (sound_operateAll h before) hop
  dsimp only at hrespond hoperate
  rw [hp.ledger] at hoperate
  obtain ⟨hlocked, hunasked, hleft⟩ := SharedLedger.run_poisoned
    (l := ⟨{ l.operateAll before with payer := p }, true⟩) rfl later
  refine ⟨p, hp, hreached, ?_, ?_, ?_⟩
  · rw [SharedLedger.responses_append, SharedLedger.responses, hresponses, hreached, hoperate,
      hlocked, hrespond, hp.panics]
  · rw [SharedLedger.operateAll_append, hreached, SharedLedger.operateAll, List.foldl_cons,
      hoperate]
    exact hleft
  · rw [SharedLedger.operateAll_append, hreached, SharedLedger.operateAll, List.foldl_cons,
      hoperate]
    exact hunasked

/-- Whichever clients share a ledger and in whichever order they get the lock, it is the ledger
alone up to the first panic, which leaves the books as they were and poisons the lock for good. A
ledger that is not shared goes on from where such a panic leaves it. -/
theorem panic_poisons :
    (∀ {γ α ι : Type} [Payer γ] [DecidableEq ι] (settings : Settings) (payer : γ) (l : Ledger γ)
      (log : List LogRecord), create settings payer = .ok (l, log) →
      ∀ (programs : ι → List (Op γ α)) (turns : List ι),
        let shared : SharedLedger γ := ⟨l, false⟩
        let ops := interleave programs turns
        (shared.operateAll ops).poisoned = (shared.responses ops).any Response.isPanic ∧
        (shared.responses ops).countP Response.isPanic ≤ 1 ∧
        (∀ before later, ops = before ++ later →
          (shared.responses before).any Response.isPanic = false →
            shared.responses before = l.responses before ∧
              shared.operateAll before = ⟨l.operateAll before, false⟩) ∧
        (∀ before op later, ops = before ++ op :: later →
          Response.isPanic ((shared.operateAll before).respond op) = true →
            ∃ p, l.Poisons before op later p) ∧
        ∀ before op later, ops = before ++ op :: later →
          Response.isPanic ((l.operateAll before).respond op) = true →
            ∃ p, (l.operateAll before).BreaksDown op p ∧
              l.operateAll ops = { l.operateAll before with payer := p }.operateAll later ∧
              l.responses ops = l.responses before ++ some (.outcome (.error .panicked)) ::
                { l.operateAll before with payer := p }.responses later) ∧
    ∀ {α : Type} (l : Ledger RecordingPayer) (op : Op RecordingPayer α) (p : RecordingPayer),
      l.BreaksDown op p → p.accepted = l.payer.accepted := by
  constructor
  · intro γ α ι _ _ settings payer l log hl programs turns
    have h := sound_of_create hl
    refine ⟨SharedLedger.poisoned_run _, SharedLedger.countP_isPanic_le _,
      fun before later _ hcalm => SharedLedger.run_open rfl hcalm,
      fun before op later _ hop => poisons h hop, fun before op later hops hop => ?_⟩
    obtain ⟨p, hp⟩ := breaksDown (sound_operateAll h before) hop
    refine ⟨p, hp, ?_, ?_⟩
    · rw [hops, operateAll_append, operateAll, List.foldl_cons, hp.ledger]
      rfl
    · rw [hops, responses_append, responses, hp.panics, hp.ledger]
  · intro α l op p hp
    obtain ⟨stamp, i, -, -, hpay⟩ := hp.withdraws
    exact accepted_of_refuses (.inr ⟨i, by simp [hpay], by rw [hpay]⟩)

def onlookers : Bool → List (Op RecordingPayer UInt64)
  | true => [.step (.call (.ofSeconds 0) ⟨"keeper"⟩ (.deposit ⟨"keeper"⟩ 5)),
    .step (.call (.ofSeconds 1) ⟨"keeper"⟩ (.withdraw ⟨"ann"⟩ 3)),
    .step (.call (.ofSeconds 2) ⟨"keeper"⟩ (.withdraw ⟨"ann"⟩ 3)),
    .query (·.balanceOf ⟨"keeper"⟩)]
  | false => [.step (.tune (·.breakNext)), .query (·.balanceOf ⟨"keeper"⟩)]

theorem panic_poisons_onlookers :
    ∃ l log, create { owner := ⟨"keeper"⟩ } ({} : RecordingPayer) = .ok (l, log) ∧
      let before := interleave onlookers [true, false]
      let op : Op RecordingPayer UInt64 :=
        .step (.call (.ofSeconds 1) ⟨"keeper"⟩ (.withdraw ⟨"ann"⟩ 3))
      let later : List (Op RecordingPayer UInt64) :=
        [.step (.call (.ofSeconds 2) ⟨"keeper"⟩ (.withdraw ⟨"ann"⟩ 3)),
          .query (·.balanceOf ⟨"keeper"⟩)]
      interleave onlookers [true, false, true, true, false] = before ++ op :: later ∧
      (⟨l, false⟩ : SharedLedger _).responses before = l.responses before ∧
      (∃ p, l.Poisons before op later p ∧ p.accepted = (l.operateAll before).payer.accepted) ∧
      ∃ p, (l.operateAll before).BreaksDown op p ∧
        (l.operateAll (before ++ op :: later)).payer.accepted = [⟨⟨"ann"⟩, 3⟩] := by
  have hl : create { owner := ⟨"keeper"⟩ } ({} : RecordingPayer) = .ok
      (⟨{ owner := ⟨"keeper"⟩ }, { owner := ⟨"keeper"⟩ }, {}⟩, _) :=
    create_eq_ok_iff.mpr ⟨by decide, rfl, rfl⟩
  obtain ⟨hshared, haccepted⟩ := panic_poisons
  obtain ⟨-, -, hcalm, hpoisons, hplain⟩ :=
    hshared _ _ _ _ hl onlookers [true, false, true, true, false]
  obtain ⟨p, hp⟩ := hpoisons (interleave onlookers [true, false]) _ _ rfl (by decide)
  obtain ⟨q, hq, -, -⟩ := hplain (interleave onlookers [true, false]) _ _ rfl (by decide)
  exact ⟨_, _, hl, rfl, (hcalm _ _ rfl (by decide)).1, ⟨p, hp, haccepted _ _ _ hp.breaks⟩,
    q, hq, by decide⟩

end Ledger

end Depository
