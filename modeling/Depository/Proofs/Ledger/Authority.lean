import Depository.Proofs.Ledger.Conservation
import Depository.Proofs.Ledger.Numbering
import Depository.Proofs.Ledger.Payouts

namespace Depository

def Answered.heir? (a : Answered) : Option Account :=
  match a.request with
  | .transferOwnership new => some new
  | _ => none

namespace Ledger

variable {γ : Type}

/-- What a request has changed between two states, the caller was entitled to change. -/
structure Consented (l l' : Ledger γ) (caller : Account) (r : Request) : Prop where
  single : ∃ account, ∀ x, l'.balanceOf x ≠ l.balanceOf x → x = account
  gains : ∀ x, l.balanceOf x < l'.balanceOf x → caller = x
  losses : ∀ x, l'.balanceOf x < l.balanceOf x → caller = l.owner
  paid : ∀ x receiver amount, r = .withdraw receiver amount →
    l'.balanceOf x ≠ l.balanceOf x → x = l.owner
  orders : l'.orders = l.orders ∨ ∃ o : Order, o.owner = caller ∧ l'.orders = l.orders ++ [o]
  checkpoints : l'.checkpoints ≠ l.checkpoints → caller = l.owner
  owner : l'.owner ≠ l.owner → caller = l.owner
  payer : l'.payer ≠ l.payer → caller = l.owner

def Denies [Payer γ] (l : Ledger γ) (caller : Account) (r : Request) : Prop :=
  ∀ stamp, (l.perform stamp caller r).outcome =
      .error (.failed (.unauthorized r.operation caller (r.principal l.owner))) ∧
    (l.perform stamp caller r).ledger = l ∧ l.asked stamp caller r = []

def heirs [Payer γ] (l : Ledger γ) (steps : List (Step γ)) : List Account :=
  (l.answered steps).filterMap Answered.heir?

/-- The ledger is the new owner's, and as long as nobody names the former one again, that account
has no say as an owner. -/
structure HandedOver [Payer γ] (l : Ledger γ) (former new : Account) : Prop where
  owner : l.owner = new
  last : ∀ later : List (Step γ), (l.run later).owner = (l.heirs later).getLastD new
  denied : ∀ later : List (Step γ), former ∉ new :: l.heirs later →
    ∀ r : Request, r.subject = none → (l.run later).Denies former r

end Ledger

namespace Request

variable {r : Request} {owner account x : Account}

lemma principal_of_gain (h : r.gain x ≠ 0) (owner : Account) : r.principal owner = x := by
  cases r with
  | deposit payee amount => exact (ite_ne_right_iff.mp h).1
  | placeOrder o => exact (ite_ne_right_iff.mp h).1
  | debit | recordRoot | recordHex | withdraw | transferOwnership => exact absurd rfl h

lemma principal_of_loss (h : r.loss owner x ≠ 0) : r.principal owner = owner := by
  cases r with
  | debit | withdraw => rfl
  | deposit | placeOrder | recordRoot | recordHex | transferOwnership => exact absurd rfl h

lemma exists_moved (r : Request) (owner : Account) :
    ∃ account, ∀ x, r.gain x ≠ 0 ∨ r.loss owner x ≠ 0 → x = account := by
  cases r with
  | deposit account amount | debit account amount => exact ⟨account, by simp_all [gain, loss]⟩
  | placeOrder o => exact ⟨o.owner, by simp_all [gain, loss]⟩
  | withdraw | recordRoot | recordHex | transferOwnership =>
    exact ⟨owner, by simp_all [gain, loss]⟩

end Request

namespace Books

variable {b : Books} {settings : Settings} {a : Answered} {kind : EventKind}

lemma Answers.owner_enact (h : b.Answers settings a kind) (stamp : Stamp) :
    (b.enact settings.eventLog stamp kind).owner = a.heir?.getD b.owner := by
  have hevent := h.event
  rw [enact_owner, Answered.heir?]
  cases hr : a.request with
  | recordHex text =>
    rw [hr] at hevent
    obtain ⟨root, -, rfl⟩ := Option.map_eq_some_iff.mp hevent
    rfl
  | debit | withdraw =>
    obtain rfl := Option.some.inj (hr ▸ hevent)
    exact (b.adjustBalance_frame _ _).2.2
  | deposit | placeOrder | recordRoot | transferOwnership =>
    obtain rfl := Option.some.inj (hr ▸ hevent)
    rfl

lemma Answers.heir_nonempty (h : b.Answers settings a kind) {new : Account}
    (hnew : a.heir? = some new) : new.isEmpty = false := by
  have hj := h.judged
  rw [Answered.heir?] at hnew
  cases hr : a.request with
  | transferOwnership heir =>
    rw [hr] at hnew hj
    obtain rfl := Option.some.inj hnew
    simp only [judge] at hj
    split_ifs at hj with hempty
    simpa using hempty
  | _ => simp [hr] at hnew

lemma Answers.gains (h : b.Answers settings a kind) (stamp : Stamp) {x : Account}
    (hx : b.balanceOf x < (b.enact settings.eventLog stamp kind).balanceOf x) : a.caller = x := by
  have hbalance := h.balance stamp x
  have hlt := UInt64.lt_iff_toNat_lt.mp hx
  rw [h.caller]
  exact Request.principal_of_gain (by omega) b.owner

lemma Answers.losses (h : b.Answers settings a kind) (stamp : Stamp) {x : Account}
    (hx : (b.enact settings.eventLog stamp kind).balanceOf x < b.balanceOf x) :
    a.caller = b.owner := by
  have hbalance := h.balance stamp x
  have hlt := UInt64.lt_iff_toNat_lt.mp hx
  have hloss : a.request.loss b.owner x ≠ 0 := by
    rw [← h.owner]
    omega
  rw [h.caller]
  exact Request.principal_of_loss hloss

lemma Answers.moved (h : b.Answers settings a kind) (stamp : Stamp) {x : Account}
    (hx : (b.enact settings.eventLog stamp kind).balanceOf x ≠ b.balanceOf x) :
    a.request.gain x ≠ 0 ∨ a.request.loss b.owner x ≠ 0 := by
  have hbalance := h.balance stamp x
  have hne : ((b.enact settings.eventLog stamp kind).balanceOf x).toNat ≠
      (b.balanceOf x).toNat := fun he => hx (UInt64.toNat_inj.mp he)
  rw [← h.owner]
  omega

lemma Answers.orders (h : b.Answers settings a kind) (hb : b.Sound) (stamp : Stamp) :
    (b.enact settings.eventLog stamp kind).orders.rows = b.orders.rows ∨
      ∃ o : Order, o.owner = a.caller ∧
        (b.enact settings.eventLog stamp kind).orders.rows = b.orders.rows ++ [o] := by
  have hplaced := h.placed
  rw [enact_orders, hb.carryOut_orders h.warrants]
  cases ho : kind.order? with
  | none => exact .inl (List.append_nil _)
  | some o =>
    refine .inr ⟨o, ?_, rfl⟩
    rw [ho, Answered.placed?] at hplaced
    rw [h.caller]
    split at hplaced
    case h_1 request hr =>
      obtain ⟨hrequest, -⟩ := Prod.mk.inj (Option.some.inj hplaced)
      rw [hr, hrequest]
      rfl
    case h_2 => cases hplaced

lemma Answers.checkpoints (h : b.Answers settings a kind) (hb : b.Sound) (stamp : Stamp)
    (hne : (b.enact settings.eventLog stamp kind).checkpoints.rows ≠ b.checkpoints.rows) :
    a.caller = b.owner := by
  have hrecorded := h.recorded
  rw [enact_checkpoints, hb.carryOut_checkpoints h.warrants] at hne
  cases hc : kind.checkpoint? with
  | none => exact absurd (by rw [hc]; exact List.append_nil _) hne
  | some c =>
    rw [hc, Answered.recorded?] at hrecorded
    obtain ⟨root, hroot, -⟩ := Option.map_eq_some_iff.mp hrecorded
    rw [h.caller]
    exact Request.principal_of_root? hroot b.owner

lemma Answers.caller_of_heir (h : b.Answers settings a kind) (hnew : a.heir? ≠ none) :
    a.caller = b.owner := by
  rw [h.caller]
  rw [Answered.heir?] at hnew
  cases hr : a.request with
  | transferOwnership heir => rfl
  | _ => simp [hr] at hnew

end Books

namespace Ledger

variable {γ : Type} [Payer γ] {l : Ledger γ}

lemma consented (h : l.books.Sound) (stamp : Stamp) (caller : Account) (r : Request) :
    l.Consented (l.perform stamp caller r).ledger caller r := by
  have hpayer : (l.perform stamp caller r).ledger.payer ≠ l.payer → caller = l.owner := by
    intro hne
    have honce := paysOnce h stamp caller r
    obtain ⟨⟨i, v⟩, hasked⟩ := List.exists_mem_of_ne_nil _ (mt honce.unasked hne)
    exact (honce.asked i v hasked).2.1
  rcases perform_cases h stamp caller r with ⟨e, p, -, hl, -⟩ | ⟨kind, p, hr, -, hl, -⟩
  · rw [hl] at hpayer ⊢
    have hsame : ∀ x, balanceOf { l with payer := p } x = l.balanceOf x := fun _ => rfl
    exact ⟨⟨caller, fun x hx => absurd (hsame x) hx⟩, fun x hx => absurd hx (UInt64.lt_irrefl _),
      fun x hx => absurd hx (UInt64.lt_irrefl _), fun x _ _ _ hx => absurd (hsame x) hx, .inl rfl,
      fun hne => absurd rfl hne, fun hne => absurd rfl hne, hpayer⟩
  · have ha := Books.answers_of_ruling hr
    obtain ⟨account, hmoved⟩ := r.exists_moved l.owner
    rw [hl] at hpayer ⊢
    refine ⟨⟨account, fun x hx => hmoved x (ha.moved stamp hx)⟩, fun x hx => ha.gains stamp hx,
      fun x hx => ha.losses stamp hx, ?_, ha.orders h stamp, ha.checkpoints h stamp, ?_, hpayer⟩
    · rintro x receiver amount rfl hx
      rcases ha.moved stamp hx with hgain | hloss
      · exact absurd rfl hgain
      · exact ((ite_ne_right_iff.mp hloss).1).symm
    · intro hne
      refine ha.caller_of_heir fun hnone => hne ?_
      have howner := ha.owner_enact stamp
      rw [hnone] at howner
      exact howner

lemma denies (h : l.books.Sound) {caller : Account} {r : Request}
    (hc : caller ≠ r.principal l.owner) : l.Denies caller r := by
  intro stamp
  have hr : l.books.ruling l.settings caller r =
      .error (.unauthorized r.operation caller (r.principal l.owner)) := if_pos hc
  have hasked := asked_eq h stamp caller r
  rw [hr] at hasked
  obtain ⟨ho, hl⟩ := perform_refused h stamp hr
  exact ⟨ho, hl, hasked⟩

lemma owner_run (h : l.books.Sound) (steps : List (Step γ)) :
    (l.run steps).owner = (l.heirs steps).getLastD l.owner := by
  have hnone : l.books.owner = (([] : List Answered).filterMap Answered.heir?).getLastD l.owner := rfl
  refine answered_invariant
    (P := fun b done => b.owner = (done.filterMap Answered.heir?).getLastD l.owner)
    h hnone (fun b done a stamp kind _ hb ha => ?_) steps
  rw [ha.owner_enact, List.filterMap_append, hb]
  cases ha' : a.heir? <;> simp [ha']

omit [Payer γ] in
lemma owner_nonempty_of_create {settings : Settings} {payer : γ} {log : List LogRecord}
    (hl : create settings payer = .ok (l, log)) : l.owner.isEmpty = false := by
  obtain ⟨hv, rfl, -⟩ := create_eq_ok_iff.mp hl
  rw [Settings.validate] at hv
  split_ifs at hv with howner
  exact Bool.eq_false_iff.mpr howner

lemma owner_nonempty_run (h : l.books.Sound) (hl : l.owner.isEmpty = false)
    (steps : List (Step γ)) : (l.run steps).owner.isEmpty = false := by
  have hrun := run_invariant (P := fun k => k.books.Sound ∧ k.owner.isEmpty = false) ⟨h, hl⟩ steps
    fun s _ k hk => ?_
  · exact hrun.2
  · refine ⟨hk.1.step s, ?_⟩
    rcases step_answered hk.1 s with ⟨-, hb⟩ | ⟨a, stamp, kind, -, ha, hb⟩
    · rw [owner, hb]
      exact hk.2
    · rw [owner, hb, ha.owner_enact]
      cases hnew : a.heir? with
      | none => exact hk.2
      | some new => exact ha.heir_nonempty hnew

lemma accepted_caller {l : Ledger RecordingPayer} (h : l.books.Sound) {t : Turn}
    (hne : (l.step t.step).payer.accepted ≠ l.payer.accepted) :
    ∃ stamp r, t = .call stamp l.owner r := by
  cases t with
  | block | rejectAll | breakNext => exact absurd rfl hne
  | call stamp caller r =>
    have hpayer : (l.perform stamp caller r).ledger.payer ≠ l.payer :=
      fun he => hne (congrArg RecordingPayer.accepted he)
    rw [(consented h stamp caller r).payer hpayer]
    exact ⟨stamp, r, rfl⟩

lemma denies_former (h : l.books.Sound) {steps : List (Step γ)} {former : Account}
    (hformer : former ∉ l.owner :: l.heirs steps) {r : Request} (hr : r.subject = none) :
    (l.run steps).Denies former r := by
  refine denies (h.run steps) fun he => hformer ?_
  rw [he, Request.principal, hr, Option.getD_none, owner_run h]
  exact List.getLastD_mem_cons

lemma handedOver (h : l.books.Sound) {stamp : Stamp} {caller new : Account} {reply : Reply}
    (hnew : (l.perform stamp caller (.transferOwnership new)).outcome = .ok reply) :
    (l.perform stamp caller (.transferOwnership new)).ledger.HandedOver l.owner new := by
  have hsound : (l.perform stamp caller (.transferOwnership new)).ledger.books.Sound :=
    h.step (.call stamp caller (.transferOwnership new))
  have howner := owner_run h [.call stamp caller (.transferOwnership new)]
  simp only [heirs, answered, answered?, hnew] at howner
  refine ⟨howner, fun later => ?_, fun later hformer r hr => denies_former hsound ?_ hr⟩
  · rw [owner_run hsound]
    exact congrArg _ howner
  · exact howner ▸ hformer

/-- Whatever has happened to a ledger, a request changes only what its caller is entitled to, and
one that its principal has not made is turned down as such. An owner who has handed the ledger over
is turned down as owner from then on, until somebody names that account again. -/
theorem authority_heeded :
    (∀ {γ : Type} [Payer γ] (settings : Settings) (payer : γ) (l : Ledger γ) (log : List LogRecord),
      create settings payer = .ok (l, log) → ∀ steps : List (Step γ),
        (l.run steps).owner.isEmpty = false ∧ ∀ stamp caller,
          (∀ r, (l.run steps).Consented ((l.run steps).perform stamp caller r).ledger caller r ∧
            (caller ≠ r.principal (l.run steps).owner → (l.run steps).Denies caller r)) ∧
          ∀ new reply,
            ((l.run steps).perform stamp caller (.transferOwnership new)).outcome = .ok reply →
              ((l.run steps).perform stamp caller (.transferOwnership new)).ledger.HandedOver
                (l.run steps).owner new) ∧
    ∀ (settings : Settings) (payer : RecordingPayer) (l : Ledger RecordingPayer)
      (log : List LogRecord), create settings payer = .ok (l, log) → ∀ (turns : List Turn) (t : Turn),
        let k := l.run (turns.map Turn.step)
        (k.step t.step).payer.accepted ≠ k.payer.accepted → ∃ stamp r, t = .call stamp k.owner r := by
  constructor
  · intro γ _ settings payer l log hl steps
    have hopened := sound_of_create hl
    have h := hopened.run steps
    exact ⟨owner_nonempty_run hopened (owner_nonempty_of_create hl) steps, fun stamp caller =>
      ⟨fun r => ⟨consented h stamp caller r, denies h⟩, fun new reply hnew => handedOver h hnew⟩⟩
  · intro settings payer l log hl turns t
    exact accepted_caller ((sound_of_create hl).run (turns.map Turn.step))

theorem authority_heeded_interrupted :
    let turns : List Turn :=
      [.call (.ofSeconds 0) ⟨"keeper"⟩ (.deposit ⟨"keeper"⟩ 5), .breakNext,
        .call (.ofSeconds 1) ⟨"keeper"⟩ (.withdraw ⟨"ann"⟩ 3)]
    ∃ l log, create { owner := ⟨"keeper"⟩ } ({} : RecordingPayer) = .ok (l, log) ∧
      let k := l.run (turns.map Turn.step)
      let transferred := k.perform (.ofSeconds 3) ⟨"keeper"⟩ (.transferOwnership ⟨"ann"⟩)
      k.owner.isEmpty = false ∧
      k.Consented (k.perform (.ofSeconds 3) ⟨"keeper"⟩ (.withdraw ⟨"ann"⟩ 1)).ledger ⟨"keeper"⟩
        (.withdraw ⟨"ann"⟩ 1) ∧
      k.Denies ⟨"ann"⟩ (.withdraw ⟨"ann"⟩ 1) ∧
      (transferred.ledger.run [.call (.ofSeconds 4) ⟨"ann"⟩ (.debit ⟨"keeper"⟩ 2)]).Denies
        ⟨"keeper"⟩ (.withdraw ⟨"keeper"⟩ 0) ∧
      ∃ stamp r, Turn.call (.ofSeconds 3) ⟨"keeper"⟩ (.withdraw ⟨"ann"⟩ 1) =
        .call stamp k.owner r := by
  intro turns
  have hl : create { owner := ⟨"keeper"⟩ } ({} : RecordingPayer) = .ok
      (⟨{ owner := ⟨"keeper"⟩ }, { owner := ⟨"keeper"⟩ }, {}⟩, _) :=
    create_eq_ok_iff.mpr ⟨by decide, rfl, rfl⟩
  obtain ⟨hrun, haccepted⟩ := authority_heeded
  obtain ⟨howner, hcalls⟩ := hrun _ _ _ _ hl (turns.map Turn.step)
  have htransferred := (hcalls (.ofSeconds 3) ⟨"keeper"⟩).2 ⟨"ann"⟩ .done (by decide)
  exact ⟨_, _, hl, howner, ((hcalls (.ofSeconds 3) ⟨"keeper"⟩).1 (.withdraw ⟨"ann"⟩ 1)).1,
    ((hcalls (.ofSeconds 3) ⟨"ann"⟩).1 (.withdraw ⟨"ann"⟩ 1)).2 (by decide),
    htransferred.denied _ (by decide) _ rfl, haccepted _ _ _ _ hl turns _ (by decide)⟩

end Ledger

end Depository
