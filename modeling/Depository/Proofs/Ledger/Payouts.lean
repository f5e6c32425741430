import Depository.Proofs.Ledger.History

namespace Depository

open Store

def Request.payout? : Request → Option Instruction
  | .withdraw receiver amount => some ⟨receiver, amount⟩
  | _ => none

structure Watched (γ : Type) where
  payer : γ
  asked : List (Instruction × Verdict) := []

instance {γ : Type} [Payer γ] : Payer (Watched γ) where
  pay w i :=
    let (verdict, payer) := Payer.pay w.payer i
    (verdict, ⟨payer, w.asked ++ [(i, verdict)]⟩)

def Verdict.outcome (i : Instruction) : Verdict → Except Abort Reply
  | accepted => .ok .done
  | rejected reason => .error (.failed (.transferRejected i.receiver i.amount reason))
  | panicked => .error .panicked

lemma Verdict.outcome_eq_ok_iff {i : Instruction} {v : Verdict} :
    (∃ reply, v.outcome i = .ok reply) ↔ v = .accepted := by
  cases v <;> simp [outcome]

lemma Request.eq_withdraw {r : Request} {i : Instruction} (h : r.payout? = some i) :
    r = .withdraw i.receiver i.amount := by
  cases r with
  | withdraw receiver amount =>
    obtain rfl := Option.some.inj h
    rfl
  | _ => cases h

namespace Books

variable {b : Books}

lemma judge_payout {maxRootBytes : UInt64} {r : Request} {kind : EventKind}
    (h : b.judge maxRootBytes r = .ok kind) : kind.payout? = r.payout? := by
  have hroot : ∀ root, b.judgeRoot maxRootBytes root = .ok kind → kind.payout? = none := by
    intro root h
    simp only [judgeRoot] at h
    split_ifs at h
    obtain rfl := Except.ok.inj h
    rfl
  cases r with
  | recordRoot root => exact hroot root h
  | recordHex text =>
    simp only [judge] at h
    cases hx : Root.ofHex text with
    | error f => simp [hx] at h
    | ok root => exact hroot root (by simpa [hx] using h)
  | deposit | debit | placeOrder | withdraw | transferOwnership =>
    simp only [judge] at h
    split_ifs at h
    obtain rfl := Except.ok.inj h
    rfl

lemma ruling_payout {settings : Settings} {caller : Account} {r : Request} {kind : EventKind}
    (h : b.ruling settings caller r = .ok kind) : kind.payout? = r.payout? :=
  judge_payout (ruling_eq_ok_iff.mp h).2.1

lemma judge_withdraw {maxRootBytes : UInt64} {receiver : Account} {amount : UInt64}
    {kind : EventKind} (h : b.judge maxRootBytes (.withdraw receiver amount) = .ok kind) :
    kind = .withdrawn receiver amount ∧ amount ≤ b.balanceOf b.owner := by
  simp only [judge] at h
  split_ifs at h with hlt
  exact ⟨(Except.ok.inj h).symm, UInt64.not_lt.mp hlt⟩

lemma enact_withdrawn_frame (audited : Bool) (stamp : Stamp) (receiver : Account)
    (amount : UInt64) :
    let b' := b.enact audited stamp (.withdrawn receiver amount)
    b'.deposits = (b.adjustBalance b.owner (b.balanceOf b.owner - amount)).deposits ∧
      b'.orders = b.orders ∧ b'.checkpoints = b.checkpoints ∧ b'.owner = b.owner := by
  have hframe := b.adjustBalance_frame b.owner (b.balanceOf b.owner - amount)
  cases audited with
  | false => exact ⟨rfl, hframe⟩
  | true => exact ⟨rfl, hframe⟩

lemma Sound.enact_events (h : b.Sound) (audited : Bool) (stamp : Stamp) (kind : EventKind) :
    ∃ es, (b.enact audited stamp kind).events.rows = b.events.rows ++ es ∧
      es.map Event.kind = if audited then [kind] else [] := by
  cases audited with
  | false =>
    refine ⟨[], ?_, rfl⟩
    rw [List.append_nil]
    exact congrArg Table.rows (b.carryOut_events kind)
  | true => exact ⟨_, h.enact_rows stamp kind, rfl⟩

end Books

namespace Ledger

variable {γ : Type}

def watched (l : Ledger γ) : Ledger (Watched γ) :=
  ⟨l.books, l.settings, ⟨l.payer, []⟩⟩

def unwatched (l : Ledger (Watched γ)) : Ledger γ :=
  ⟨l.books, l.settings, l.payer.payer⟩

/-- Exactly the amount has left the owner's deposit, and the trail says so if one is kept. -/
structure PaidOut (l l' : Ledger γ) (i : Instruction) : Prop where
  covered : i.amount ≤ l.balanceOf l.owner
  balance : l'.balanceOf = Function.update l.balanceOf l.owner (l.balanceOf l.owner - i.amount)
  rows : ∀ account, (l'.books.deposits.get? account).isSome = (l.books.deposits.get? account).isSome
  orders : l'.books.orders = l.books.orders
  checkpoints : l'.books.checkpoints = l.books.checkpoints
  owner : l'.owner = l.owner
  events : ∃ es, l'.events = l.events ++ es ∧
    es.map Event.kind = if l.settings.eventLog then [.withdrawn i.receiver i.amount] else []

lemma paidOut_withdrawn {l : Ledger γ} (h : l.books.Sound) (stamp : Stamp) {i : Instruction}
    (hle : i.amount ≤ l.books.balanceOf l.books.owner) (p : γ) :
    l.PaidOut { l with
      books := l.books.enact l.settings.eventLog stamp (.withdrawn i.receiver i.amount)
      payer := p } i := by
  obtain ⟨hdeposits, horders, hcheckpoints, howner⟩ := l.books.enact_withdrawn_frame
    l.settings.eventLog stamp i.receiver i.amount
  refine ⟨hle, ?_, fun account => ?_, horders, hcheckpoints, howner, h.enact_events _ _ _⟩
  · refine Eq.trans ?_ (Books.balanceOf_adjustBalance hle)
    funext account
    exact congrArg (fun t => ((Table.get? t account).map Deposit.amount).getD 0) hdeposits
  · dsimp only
    rw [hdeposits, Books.isSome_adjustBalance]

variable [Payer γ] {l : Ledger γ}

def asked (l : Ledger γ) (stamp : Stamp) (caller : Account) (r : Request) :
    List (Instruction × Verdict) :=
  (l.watched.perform stamp caller r).ledger.payer.asked

def paid? (l : Ledger γ) : Step γ → Option Instruction
  | .call stamp caller r =>
    match (l.perform stamp caller r).outcome with
    | .ok _ => r.payout?
    | .error _ => none
  | .tune _ => none

def payouts (l : Ledger γ) : List (Step γ) → List Instruction
  | [] => []
  | s :: steps => (l.paid? s).toList ++ (l.step s).payouts steps

lemma follow_watched (stamp : Stamp) (ruling : Except Failure EventKind) :
    (l.watched.follow stamp ruling).map id unwatched = l.follow stamp ruling ∧
      (l.watched.follow stamp ruling).2.payer.asked =
        match ruling with
        | .ok kind => (kind.payout?.map fun i => (i, (Payer.pay l.payer i).1)).toList
        | .error _ => [] := by
  cases ruling with
  | error f => exact ⟨rfl, rfl⟩
  | ok kind =>
    simp only [follow, settle]
    cases kind.payout? with
    | none => exact ⟨rfl, rfl⟩
    | some i =>
      simp only [watched, Payer.pay, Option.map_some, Option.toList_some]
      rcases Payer.pay l.payer i with ⟨_ | reason | _, p⟩ <;> exact ⟨rfl, rfl⟩

/-- A request asks the payer at most once, with what the request says, if nothing else stands
against it, and the books change just if the payer accepts. -/
structure PaysOnce (l : Ledger γ) (stamp : Stamp) (caller : Account) (r : Request) : Prop where
  watched : (l.watched.perform stamp caller r).outcome = (l.perform stamp caller r).outcome ∧
    (l.watched.perform stamp caller r).ledger.unwatched = (l.perform stamp caller r).ledger
  once : (l.asked stamp caller r).length ≤ 1
  asked : ∀ i v, (i, v) ∈ l.asked stamp caller r →
    r = .withdraw i.receiver i.amount ∧ caller = l.owner ∧ i.amount ≤ l.balanceOf l.owner ∧
      Payer.pay l.payer i = (v, (l.perform stamp caller r).ledger.payer) ∧
      (l.perform stamp caller r).outcome = v.outcome i
  asks : ∀ receiver amount, r = .withdraw receiver amount → caller = l.owner →
    amount ≤ l.balanceOf l.owner → (l.settings.eventLog = true → HasNext l.books.events.nextSeq) →
      l.asked stamp caller r ≠ []
  unasked : l.asked stamp caller r = [] → (l.perform stamp caller r).ledger.payer = l.payer
  accepted : ∀ receiver amount, r = .withdraw receiver amount →
    ((∃ reply, (l.perform stamp caller r).outcome = .ok reply) ↔
      l.asked stamp caller r = [(⟨receiver, amount⟩, .accepted)])
  paid : ∀ receiver amount reply, r = .withdraw receiver amount →
    (l.perform stamp caller r).outcome = .ok reply →
      l.PaidOut (l.perform stamp caller r).ledger ⟨receiver, amount⟩
  undone : ∀ e, (l.perform stamp caller r).outcome = .error e →
    (l.perform stamp caller r).ledger.books = l.books

variable (h : l.books.Sound)

include h

section Asked

variable (stamp : Stamp) (caller : Account) (r : Request)

lemma perform_watched :
    (l.watched.perform stamp caller r).outcome = (l.perform stamp caller r).outcome ∧
      (l.watched.perform stamp caller r).ledger.unwatched = (l.perform stamp caller r).ledger := by
  have hwatched := perform_eq (l := l.watched) h stamp caller r
  have hforget := (follow_watched (l := l) stamp (l.books.ruling l.settings caller r)).1
  rw [← perform_eq h stamp caller r] at hforget
  change _ = l.watched.follow stamp (l.books.ruling l.settings caller r) at hwatched
  rw [← hwatched, Prod.map_apply, Prod.mk.injEq] at hforget
  exact hforget

lemma asked_eq :
    l.asked stamp caller r =
      match l.books.ruling l.settings caller r with
      | .ok _ => (r.payout?.map fun i => (i, (Payer.pay l.payer i).1)).toList
      | .error _ => [] := by
  have hwatched := congrArg Prod.snd (perform_eq (l := l.watched) h stamp caller r)
  have hasked := (follow_watched (l := l) stamp (l.books.ruling l.settings caller r)).2
  change (l.watched.perform stamp caller r).ledger =
    (l.watched.follow stamp (l.books.ruling l.settings caller r)).2 at hwatched
  rw [Ledger.asked, hwatched, hasked]
  cases hr : l.books.ruling l.settings caller r with
  | error f => rfl
  | ok kind =>
    rw [← Books.ruling_payout hr]

lemma paysOnce_of_unasked (hasked : l.asked stamp caller r = [])
    (hpayer : (l.perform stamp caller r).ledger.payer = l.payer)
    (hbooks : ∀ e, (l.perform stamp caller r).outcome = .error e →
      (l.perform stamp caller r).ledger.books = l.books)
    (hr : ∀ receiver amount, r = .withdraw receiver amount →
      ∃ f, l.books.ruling l.settings caller r = .error f) : l.PaysOnce stamp caller r := by
  have hrefused : ∀ receiver amount, r = .withdraw receiver amount → ∀ reply,
      (l.perform stamp caller r).outcome ≠ .ok reply := by
    intro receiver amount he reply ho
    obtain ⟨f, hf⟩ := hr receiver amount he
    have hperform := congrArg Prod.fst (perform_eq h stamp caller r)
    rw [hf] at hperform
    cases ho.symm.trans hperform
  exact
    { watched := perform_watched h stamp caller r
      once := by simp [hasked]
      asked := fun i v hv => by simp [hasked] at hv
      asks := fun receiver amount he hcaller hle hroom => by
        obtain ⟨f, hf⟩ := hr receiver amount he
        subst he
        have hok : l.books.ruling l.settings caller (.withdraw receiver amount) =
            .ok (.withdrawn receiver amount) :=
          Books.ruling_eq_ok_iff.mpr ⟨hcaller, if_neg (UInt64.not_lt.mpr hle), hroom⟩
        cases hok.symm.trans hf
      unasked := fun _ => hpayer
      accepted := fun receiver amount he => by
        constructor
        · rintro ⟨reply, ho⟩
          exact absurd ho (hrefused receiver amount he reply)
        · intro haccepted
          simp [hasked] at haccepted
      paid := fun receiver amount reply he ho => absurd ho (hrefused receiver amount he reply)
      undone := hbooks }

section Payout

variable {caller} {i : Instruction} {kind : EventKind}
  (hr : l.books.ruling l.settings caller (.withdraw i.receiver i.amount) = .ok kind)

include hr

lemma perform_withdraw :
    caller = l.owner ∧ i.amount ≤ l.balanceOf l.owner ∧
      let v := (Payer.pay l.payer i).1
      (l.perform stamp caller (.withdraw i.receiver i.amount)).outcome = v.outcome i ∧
      (l.perform stamp caller (.withdraw i.receiver i.amount)).ledger =
        { l with
          books := if v = .accepted then
              l.books.enact l.settings.eventLog stamp (.withdrawn i.receiver i.amount)
            else l.books
          payer := (Payer.pay l.payer i).2 } := by
  obtain ⟨hcaller, hj, -⟩ := Books.ruling_eq_ok_iff.mp hr
  obtain ⟨rfl, hle⟩ := Books.judge_withdraw hj
  have hperform := perform_eq h stamp caller (.withdraw i.receiver i.amount)
  rw [hr] at hperform
  simp only [follow, settle, EventKind.payout?] at hperform
  refine ⟨hcaller, hle, ?_⟩
  rcases hv : Payer.pay l.payer i with ⟨_ | reason | _, p⟩
  all_goals
    rw [hv, Prod.mk.injEq] at hperform
    exact hperform

lemma asked_withdraw :
    l.asked stamp caller (.withdraw i.receiver i.amount) = [(i, (Payer.pay l.payer i).1)] := by
  rw [asked_eq h, hr]
  rfl

lemma paidOut_of_answered {reply : Reply}
    (ho : (l.perform stamp caller (.withdraw i.receiver i.amount)).outcome = .ok reply) :
    l.PaidOut (l.perform stamp caller (.withdraw i.receiver i.amount)).ledger i := by
  obtain ⟨-, hle, hverdict, hl⟩ := perform_withdraw h stamp hr
  have hv : (Payer.pay l.payer i).1 = .accepted :=
    Verdict.outcome_eq_ok_iff.mp ⟨reply, hverdict.symm.trans ho⟩
  rw [hl, if_pos hv]
  exact paidOut_withdrawn h stamp hle _

lemma books_of_unanswered {e : Abort}
    (ho : (l.perform stamp caller (.withdraw i.receiver i.amount)).outcome = .error e) :
    (l.perform stamp caller (.withdraw i.receiver i.amount)).ledger.books = l.books := by
  obtain ⟨-, -, hverdict, hl⟩ := perform_withdraw h stamp hr
  have hv : (Payer.pay l.payer i).1 ≠ .accepted := by
    intro hv
    obtain ⟨reply, hok⟩ := Verdict.outcome_eq_ok_iff (i := i).mpr hv
    cases ho.symm.trans (hverdict.trans hok)
  rw [hl, if_neg hv]

lemma paysOnce_of_asked : l.PaysOnce stamp caller (.withdraw i.receiver i.amount) where
  watched := perform_watched h stamp caller _
  once := by
    rw [asked_withdraw h stamp hr]
    exact Nat.le_refl 1
  asked j v hv := by
    obtain ⟨hcaller, hle, ho, hl⟩ := perform_withdraw h stamp hr
    rw [asked_withdraw h stamp hr, List.mem_singleton, Prod.mk.injEq] at hv
    obtain ⟨rfl, rfl⟩ := hv
    exact ⟨rfl, hcaller, hle, by rw [hl], ho⟩
  asks receiver amount _ _ _ _ := by simp [asked_withdraw h stamp hr]
  unasked hnone := by simp [asked_withdraw h stamp hr] at hnone
  accepted receiver amount he := by
    obtain ⟨rfl, rfl⟩ := Request.withdraw.inj he
    rw [asked_withdraw h stamp hr, (perform_withdraw h stamp hr).2.2.1, Verdict.outcome_eq_ok_iff]
    simp
  paid receiver amount reply he ho := by
    obtain ⟨rfl, rfl⟩ := Request.withdraw.inj he
    exact paidOut_of_answered h stamp hr ho
  undone e ho := books_of_unanswered h stamp hr ho

end Payout

lemma paysOnce : l.PaysOnce stamp caller r := by
  cases hr : l.books.ruling l.settings caller r with
  | error f =>
    have hasked := asked_eq h stamp caller r
    rw [hr] at hasked
    obtain ⟨-, hl⟩ := perform_refused h stamp hr
    exact paysOnce_of_unasked h stamp caller r hasked (by rw [hl]) (fun e _ => by rw [hl])
      fun _ _ _ => ⟨f, hr⟩
  | ok kind =>
    cases hp : r.payout? with
    | some i =>
      obtain rfl := Request.eq_withdraw hp
      exact paysOnce_of_asked h stamp hr
    | none =>
      have hasked := asked_eq h stamp caller r
      have hperform := perform_eq h stamp caller r
      rw [hr] at hasked hperform
      simp only [follow, settle, Books.ruling_payout hr, hp, Prod.mk.injEq] at hperform
      rw [hp] at hasked
      refine paysOnce_of_unasked h stamp caller r hasked (by rw [hperform.2]) (fun e he => ?_) ?_
      · simp [hperform.1] at he
      · rintro receiver amount rfl
        cases hp

end Asked

end Ledger

namespace Ledger

variable {l : Ledger RecordingPayer}

lemma accepted_turn (h : l.books.Sound) (t : Turn) :
    (l.step t.step).payer.accepted = l.payer.accepted ++ (l.paid? t.step).toList := by
  cases t with
  | block | rejectAll | breakNext => simp [Turn.step, step, paid?, RecordingPayer.block,
      RecordingPayer.rejectAll, RecordingPayer.breakNext]
  | call stamp caller r =>
    rcases perform_cases h stamp caller r with ⟨e, p, ho, hl, hp⟩ | ⟨kind, p, hr, ho, hl, hp⟩
    · simp only [Turn.step, step, paid?, ho, hl, Option.toList_none, List.append_nil]
      exact accepted_of_refuses hp
    · have hpayout := Books.ruling_payout hr
      simp only [Turn.step, step, paid?, ho, hl]
      rw [accepted_of_settles hp, hpayout]

lemma accepted_run (h : l.books.Sound) (turns : List Turn) :
    (l.run (turns.map Turn.step)).payer.accepted =
      l.payer.accepted ++ l.payouts (turns.map Turn.step) := by
  induction turns generalizing l with
  | nil => simp [payouts]
  | cons t turns ih =>
    rw [List.map_cons, run_cons, ih (h.step t.step), accepted_turn h, payouts, List.append_assoc]

/-- Whatever has happened to a ledger, a request asks its payer at most once and the books follow
the verdict. A payer that records has accepted just the withdrawals that were answered. -/
theorem payouts_match_books :
    (∀ {γ : Type} [Payer γ] (settings : Settings) (payer : γ) (l : Ledger γ) (log : List LogRecord),
      create settings payer = .ok (l, log) → ∀ (steps : List (Step γ)) (stamp : Stamp)
        (caller : Account) (r : Request), (l.run steps).PaysOnce stamp caller r) ∧
    ∀ (settings : Settings) (payer : RecordingPayer) (l : Ledger RecordingPayer)
      (log : List LogRecord), create settings payer = .ok (l, log) → ∀ turns : List Turn,
        (l.run (turns.map Turn.step)).payer.accepted =
          l.payer.accepted ++ l.payouts (turns.map Turn.step) := by
  constructor
  · intro γ _ settings payer l log hl steps stamp caller r
    obtain ⟨-, rfl, -⟩ := create_eq_ok_iff.mp hl
    have hsound := Books.Sound.opened settings.owner
    exact paysOnce (hsound.run (l := ⟨{ owner := settings.owner }, settings, payer⟩) steps)
      stamp caller r
  · intro settings payer l log hl turns
    obtain ⟨-, rfl, -⟩ := create_eq_ok_iff.mp hl
    exact accepted_run (Books.Sound.opened settings.owner) turns

theorem payouts_match_books_interrupted :
    let turns : List Turn :=
      [.call (.ofSeconds 0) ⟨"keeper"⟩ (.deposit ⟨"keeper"⟩ 5), .breakNext,
        .call (.ofSeconds 1) ⟨"keeper"⟩ (.withdraw ⟨"ann"⟩ 3),
        .call (.ofSeconds 2) ⟨"keeper"⟩ (.withdraw ⟨"ann"⟩ 3)]
    ∃ l log, create { owner := ⟨"keeper"⟩ } ({} : RecordingPayer) = .ok (l, log) ∧
      (l.run (turns.map Turn.step)).PaysOnce (.ofSeconds 3) ⟨"keeper"⟩ (.withdraw ⟨"ann"⟩ 2) ∧
      l.payouts (turns.map Turn.step) = [⟨⟨"ann"⟩, 3⟩] ∧
      (l.run (turns.map Turn.step)).payer.accepted = [⟨⟨"ann"⟩, 3⟩] := by
  intro turns
  have hl : create { owner := ⟨"keeper"⟩ } ({} : RecordingPayer) = .ok
      (⟨{ owner := ⟨"keeper"⟩ }, { owner := ⟨"keeper"⟩ }, {}⟩, _) :=
    create_eq_ok_iff.mpr ⟨by decide, rfl, rfl⟩
  obtain ⟨honce, haccepted⟩ := payouts_match_books
  have hpaid := haccepted _ _ _ _ hl turns
  exact ⟨_, _, hl, honce _ _ _ _ hl _ _ _ _, by decide, hpaid.trans (by decide)⟩

end Ledger

end Depository
