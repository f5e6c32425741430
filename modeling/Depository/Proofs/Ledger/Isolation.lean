import Depository.Proofs.Ledger.Authority
import Depository.Proofs.Ledger.Refinement
import Depository.Proofs.Ledger.Unaudited

namespace Depository

def Request.account? : Request → Option Account
  | .deposit account _ | .debit account _ => some account
  | .placeOrder o => some o.owner
  | .recordRoot _ | .recordHex _ | .withdraw .. | .transferOwnership _ => none

/-- What the payer does by itself is no call, so it concerns everybody. -/
def Step.concerns {γ : Type} (account : Account) : Step γ → Bool
  | .call _ _ r => r.account? = some account
  | .tune _ => true

structure Observed where
  caller : Account
  request : Request
  outcome : Except Abort Reply
  balance : UInt64

namespace Observed

structure Alike (o o' : Observed) : Prop where
  caller : o'.caller = o.caller
  request : o'.request = o.request
  outcome : o'.outcome = o.outcome ∨ ∃ order id id', o.request = .placeOrder order ∧
    o.outcome = .ok (.order id) ∧ o'.outcome = .ok (.order id')
  balance : o'.balance = o.balance

def Exhausted (o : Observed) : Prop :=
  ∃ table, o.outcome = .error (.failed (.idSpaceExhausted table))

end Observed

namespace Ledger

variable {γ : Type} [Payer γ]

def observed? (l : Ledger γ) (account : Account) : Step γ → Option Observed
  | .call stamp caller r =>
    if r.account? = some account then
      some ⟨caller, r, (l.perform stamp caller r).outcome,
        (l.perform stamp caller r).ledger.balanceOf account⟩
    else none
  | .tune _ => none

def observed (l : Ledger γ) (account : Account) : List (Step γ) → List Observed
  | [] => []
  | s :: steps => (l.observed? account s).toList ++ (l.step s).observed account steps

end Ledger

namespace Books

/-- To the account the second books are what the first ones are, and they have no less room. -/
structure SameFor (account : Account) (b b' : Books) : Prop where
  owner : b'.owner = b.owner
  balance : b'.balanceOf account = b.balanceOf account
  orders : b'.orders.rows.length ≤ b.orders.rows.length
  events : b'.events.rows.length ≤ b.events.rows.length

inductive SameRuling (b : Books) (r : Request) :
    Except Failure EventKind → Except Failure EventKind → Prop
  | refused (f : Failure) : SameRuling b r (.error f) (.error f)
  | exhausted (table : String) (other : Except Failure EventKind) (h : ¬ b.Roomy) :
    SameRuling b r (.error (.idSpaceExhausted table)) other
  | answered (kind kind' : EventKind) (h : kind'.reply = kind.reply ∨
      ∃ order id id', r = .placeOrder order ∧ kind.reply = .order id ∧ kind'.reply = .order id') :
    SameRuling b r (.ok kind) (.ok kind')

variable {account : Account} {b b' : Books} {settings : Settings} {a a' : Answered}
  {kind kind' : EventKind}

lemma SameRuling.refl (b : Books) (r : Request) (ruling : Except Failure EventKind) :
    SameRuling b r ruling ruling := by
  cases ruling with
  | error f => exact .refused f
  | ok kind => exact .answered kind kind (.inl rfl)

section SameFor

variable (h : b.SameFor account b') (hb : b.Sound) (hb' : b'.Sound)

include h hb hb'

lemma SameFor.hasNext_orders (hn : HasNext b.orders.nextSeq) : HasNext b'.orders.nextSeq := by
  have hle := h.orders
  rw [hb.orders.length, hb'.orders.length] at hle
  exact Nat.lt_of_le_of_lt (Nat.succ_le_succ hle) hn

lemma SameFor.hasNext_events (hn : HasNext b.events.nextSeq) : HasNext b'.events.nextSeq := by
  have hle := h.events
  rw [hb.events.length, hb'.events.length] at hle
  exact Nat.lt_of_le_of_lt (Nat.succ_le_succ hle) hn

lemma SameFor.judge (maxRootBytes : UInt64) {r : Request} (hr : r.account? = some account) :
    SameRuling b r (b.judge maxRootBytes r) (b'.judge maxRootBytes r) := by
  cases r with
  | deposit payee amount =>
    obtain rfl : payee = account := Option.some.inj hr
    have hjudge : b'.judge maxRootBytes (.deposit payee amount) =
        b.judge maxRootBytes (.deposit payee amount) := by
      simp only [Books.judge, h.balance]
    exact hjudge ▸ .refl b _ _
  | debit payer amount =>
    obtain rfl : payer = account := Option.some.inj hr
    have hjudge : b'.judge maxRootBytes (.debit payer amount) =
        b.judge maxRootBytes (.debit payer amount) := by
      simp only [Books.judge, h.balance]
    exact hjudge ▸ .refl b _ _
  | placeOrder o =>
    obtain rfl : o.owner = account := Option.some.inj hr
    simp only [Books.judge, h.balance]
    by_cases hover : UInt64.size ≤ (b.balanceOf o.owner).toNat + o.value.toNat
    · rw [if_pos hover, if_pos hover]
      exact .refused _
    · rw [if_neg hover, if_neg hover]
      by_cases hn : HasNext b.orders.nextSeq
      · rw [if_neg (not_not_intro hn), if_neg (not_not_intro (h.hasNext_orders hb hb' hn))]
        exact .answered _ _ (.inr ⟨o, _, _, rfl, rfl, rfl⟩)
      · rw [if_pos hn]
        exact .exhausted _ _ fun hroomy => hn hroomy.orders
  | recordRoot | recordHex | withdraw | transferOwnership => cases hr

lemma SameFor.ruling (settings : Settings) (caller : Account) {r : Request}
    (hr : r.account? = some account) :
    SameRuling b r (b.ruling settings caller r) (b'.ruling settings caller r) := by
  rw [Books.ruling, Books.ruling, h.owner]
  split
  case isTrue => exact .refused _
  case isFalse =>
    have hjudge := h.judge hb hb' settings.maxRootBytes hr
    generalize b.judge settings.maxRootBytes r = x, b'.judge settings.maxRootBytes r = y at hjudge
    cases hjudge with
    | refused f => exact .refused f
    | exhausted table other hfull => exact .exhausted table _ hfull
    | answered kind kind' hreply =>
      by_cases hfull : settings.eventLog = true ∧ ¬ HasNext b.events.nextSeq
      · rw [withRoom, if_pos hfull]
        exact .exhausted _ _ fun hroomy => hfull.2 hroomy.events
      · have hroom' : ¬ (settings.eventLog = true ∧ ¬ HasNext b'.events.nextSeq) := fun hfull' =>
          hfull ⟨hfull'.1, fun hn => hfull'.2 (h.hasNext_events hb hb' hn)⟩
        rw [withRoom, if_neg hfull, withRoom, if_neg hroom']
        exact .answered kind kind' hreply

end SameFor

lemma Answers.length_orders (h : b.Answers settings a kind) (hb : b.Sound) (stamp : Stamp) :
    (b.enact settings.eventLog stamp kind).orders.rows.length =
      b.orders.rows.length + a.placed?.toList.length := by
  rw [enact_orders, hb.carryOut_orders h.warrants, List.length_append, h.placed, Option.toList_map,
    List.length_map]

lemma Sound.length_events (hb : b.Sound) (audited : Bool) (stamp : Stamp) (kind : EventKind) :
    (b.enact audited stamp kind).events.rows.length =
      b.events.rows.length + if audited then 1 else 0 := by
  obtain ⟨es, hrows, hkinds⟩ := hb.enact_events audited stamp kind
  have hlength := congrArg List.length hkinds
  rw [List.length_map] at hlength
  rw [hrows, List.length_append, hlength]
  cases audited <;> rfl

lemma SameFor.answer (h : b.SameFor account b') (hb : b.Sound) (hb' : b'.Sound)
    (ha : b.Answers settings a kind) (ha' : b'.Answers settings a' kind')
    (hrequest : a'.request = a.request) (stamp stamp' : Stamp) :
    (b.enact settings.eventLog stamp kind).SameFor account
      (b'.enact settings.eventLog stamp' kind') where
  owner := by
    rw [ha.owner_enact, ha'.owner_enact, h.owner, Answered.heir?, Answered.heir?, hrequest]
  balance := by
    have hbalance := ha.balance stamp account
    have hbalance' := ha'.balance stamp' account
    rw [hrequest, ha'.owner, h.owner, ← ha.owner, h.balance] at hbalance'
    exact UInt64.toNat_inj.mp (by omega)
  orders := by
    have hplaced : a'.placed?.toList.length = a.placed?.toList.length := by
      rw [Answered.placed?, Answered.placed?, hrequest]
      split <;> rfl
    rw [ha.length_orders hb, ha'.length_orders hb', hplaced]
    exact Nat.add_le_add_right h.orders _
  events := by
    rw [hb.length_events, hb'.length_events]
    exact Nat.add_le_add_right h.events _

end Books

namespace Request

variable {r : Request} {account owner : Account}

lemma gain_eq_zero (h : r.account? ≠ some account) : r.gain account = 0 := by
  cases r with
  | deposit payee amount => exact if_neg fun he => h (congrArg some he)
  | placeOrder o => exact if_neg fun he => h (congrArg some he)
  | debit | recordRoot | recordHex | withdraw | transferOwnership => rfl

lemma loss_eq_zero (h : r.account? ≠ some account) (ho : r.payout? ≠ none → owner ≠ account) :
    r.loss owner account = 0 := by
  cases r with
  | debit payer amount => exact if_neg fun he => h (congrArg some he)
  | withdraw receiver amount => exact if_neg (ho (Option.some_ne_none _))
  | deposit | placeOrder | recordRoot | recordHex | transferOwnership => rfl

end Request

namespace Books

variable {account : Account} {b b' : Books} {settings : Settings} {a : Answered} {kind : EventKind}

lemma SameFor.other (h : b.SameFor account b') (hb : b.Sound) (ha : b.Answers settings a kind)
    (hr : a.request.account? ≠ some account) (ho : account ≠ b.owner)
    (stamp : Stamp) (howner : (b.enact settings.eventLog stamp kind).owner = b.owner) :
    (b.enact settings.eventLog stamp kind).SameFor account b' where
  owner := h.owner.trans howner.symm
  balance := by
    have hbalance := ha.balance stamp account
    rw [Request.gain_eq_zero hr, Request.loss_eq_zero hr fun _ => ha.owner ▸ Ne.symm ho] at hbalance
    exact h.balance.trans (UInt64.toNat_inj.mp hbalance).symm
  orders := by
    rw [ha.length_orders hb]
    exact Nat.le_add_right_of_le h.orders
  events := by
    rw [hb.length_events]
    exact Nat.le_add_right_of_le h.events

end Books

namespace Ledger

variable {γ : Type} [Payer γ] {l l' : Ledger γ} {account : Account}

lemma heirs_cons (s : Step γ) (steps : List (Step γ)) :
    l.heirs (s :: steps) = l.heirs [s] ++ (l.step s).heirs steps := by
  simp only [heirs, answered, List.append_nil, List.filterMap_append]

lemma owner_step (h : l.books.Sound) {s : Step γ} (hs : l.heirs [s] = []) :
    (l.step s).owner = l.owner := by
  have hrun := owner_run h [s]
  rw [hs] at hrun
  exact hrun

lemma sameFor_other (h : l.books.Sound) {b' : Books} (hsame : l.books.SameFor account b')
    (ho : account ≠ l.owner) {stamp : Stamp} {caller : Account} {r : Request}
    (hr : r.account? ≠ some account) (hheirs : l.heirs [.call stamp caller r] = []) :
    (l.perform stamp caller r).ledger.books.SameFor account b' := by
  have howner : (l.perform stamp caller r).ledger.owner = l.owner := owner_step h hheirs
  rcases perform_cases h stamp caller r with ⟨e, p, -, hl, -⟩ | ⟨kind, p, hruling, -, hl, -⟩
  · rw [hl]
    exact hsame
  · rw [hl] at howner ⊢
    exact hsame.other h (Books.answers_of_ruling hruling) hr ho stamp howner

lemma sameFor_named (h : l.books.Sound) (h' : l'.books.Sound) (hs : l'.settings = l.settings)
    (hsame : l.books.SameFor account l'.books) (stamp stamp' : Stamp) (caller : Account)
    {r : Request} (hr : r.account? = some account) :
    let p := l.perform stamp caller r
    let p' := l'.perform stamp' caller r
    (p.ledger.books.SameFor account p'.ledger.books ∧
      (⟨caller, r, p.outcome, p.ledger.balanceOf account⟩ : Observed).Alike
        ⟨caller, r, p'.outcome, p'.ledger.balanceOf account⟩) ∨
    (⟨caller, r, p.outcome, p.ledger.balanceOf account⟩ : Observed).Exhausted ∧
      ¬ l.books.Roomy := by
  have hruling := hsame.ruling h h' l.settings caller hr
  generalize hx : l.books.ruling l.settings caller r = x,
    hy : l'.books.ruling l.settings caller r = y at hruling
  rw [← hs] at hy
  cases hruling with
  | refused f =>
    obtain ⟨ho, hl⟩ := perform_refused h stamp hx
    obtain ⟨ho', hl'⟩ := perform_refused h' stamp' hy
    dsimp only
    rw [ho, ho', hl, hl']
    exact .inl ⟨hsame, rfl, rfl, .inl rfl, hsame.balance⟩
  | exhausted table other hfull =>
    exact .inr ⟨⟨table, (perform_refused h stamp hx).1⟩, hfull⟩
  | answered kind kind' hreply =>
    have hunpaid : r.payout? = none := by
      cases r with
      | withdraw => cases hr
      | _ => rfl
    obtain ⟨ho, hl⟩ := perform_unpaid h stamp hx ((Books.ruling_payout hx).trans hunpaid)
    obtain ⟨ho', hl'⟩ := perform_unpaid h' stamp' hy ((Books.ruling_payout hy).trans hunpaid)
    have ha' := Books.answers_of_ruling hy
    rw [hs] at ha'
    have hafter := hsame.answer h h' (Books.answers_of_ruling hx) ha' rfl stamp stamp'
    dsimp only
    rw [ho, ho', hl, hl', hs]
    refine .inl ⟨hafter, rfl, rfl, ?_, hafter.balance⟩
    rcases hreply with hreply | ⟨order, id, id', rfl, hid, hid'⟩
    · exact .inl (congrArg Except.ok hreply)
    · exact .inr ⟨order, id, id', rfl, congrArg Except.ok hid, congrArg Except.ok hid'⟩

lemma observed_run (h : l.books.Sound) (h' : l'.books.Sound) (hs : l'.settings = l.settings)
    (hsame : l.books.SameFor account l'.books) (ho : account ≠ l.owner)
    {steps : List (Stamp × Step γ)} (hheirs : l.heirs (steps.map Prod.snd) = []) :
    List.Forall₂ Observed.Alike (l.observed account (steps.map Prod.snd))
        (l'.observed account
          ((steps.filter (·.2.concerns account)).map fun s => s.2.stampedWith s.1)) ∨
      (∃ o ∈ l.observed account (steps.map Prod.snd), o.Exhausted) ∧
        ¬ (l.run (steps.map Prod.snd)).books.Roomy := by
  induction steps generalizing l l' with
  | nil => exact .inl .nil
  | cons s steps ih =>
    obtain ⟨stamp', s⟩ := s
    rw [List.map_cons, heirs_cons, List.append_eq_nil_iff] at hheirs
    obtain ⟨hhead, htail⟩ := hheirs
    have howner : account ≠ (l.step s).owner := owner_step h hhead ▸ ho
    have hnext := h.step s
    rw [List.map_cons, run_cons, observed]
    cases s with
    | tune change => exact ih h h' hs hsame ho htail
    | call stamp caller r =>
      have hsettings := step_settings h (.call stamp caller r)
      by_cases hr : r.account? = some account
      · have hsettings' := step_settings h' (.call stamp' caller r)
        have hnamed : ((stamp', .call stamp caller r) : Stamp × Step γ).2.concerns account = true :=
          decide_eq_true hr
        rw [List.filter_cons_of_pos (p := fun x : Stamp × Step γ => x.2.concerns account) hnamed,
          List.map_cons, observed, observed?, Step.stampedWith, observed?, if_pos hr, if_pos hr,
          Option.toList_some, Option.toList_some, List.singleton_append, List.singleton_append]
        rcases sameFor_named h h' hs hsame stamp stamp' caller hr with
          ⟨hafter, halike⟩ | ⟨hfull, hroom⟩
        · rcases ih hnext (h'.step (.call stamp' caller r))
            (hsettings'.trans (hs.trans hsettings.symm)) hafter howner htail with
            hrest | ⟨⟨o, hmem, hfull⟩, hroom⟩
          · exact .inl (.cons halike hrest)
          · exact .inr ⟨⟨o, List.mem_cons_of_mem _ hmem, hfull⟩, hroom⟩
        · -- The account's own call has met the end of the numbers, which lasts.
          refine .inr ⟨⟨_, List.mem_cons_self .., hfull⟩, fun hlater => hroom ?_⟩
          exact roomy_of_step h (roomy_of_run hnext hlater)
      · have hother : ¬ ((stamp', .call stamp caller r) : Stamp × Step γ).2.concerns account = true :=
          fun he => hr (of_decide_eq_true he)
        rw [List.filter_cons_of_neg (p := fun x : Stamp × Step γ => x.2.concerns account) hother,
          observed?, if_neg hr, Option.toList_none, List.nil_append]
        exact ih hnext h' (hs.trans hsettings.symm) (sameFor_other h hsame ho hr hhead) howner
          htail

/-- As long as the owner stays the same, another account gets the answers and the balances that it
would get if none but its own requests were made; only its orders may be numbered otherwise. The one
exception is a ledger that has given out all numbers there are, as then a request of the account
fails for want of one. -/
theorem accounts_isolated {settings : Settings} {payer : γ} {log : List LogRecord}
    (hl : create settings payer = .ok (l, log)) {account : Account} (ho : account ≠ l.owner)
    (steps : List (Stamp × Step γ)) (hheirs : l.heirs (steps.map Prod.snd) = []) :
    List.Forall₂ Observed.Alike (l.observed account (steps.map Prod.snd))
        (l.observed account
          ((steps.filter (·.2.concerns account)).map fun s => s.2.stampedWith s.1)) ∨
      (∃ o ∈ l.observed account (steps.map Prod.snd), o.Exhausted) ∧
        ¬ (l.run (steps.map Prod.snd)).HasRoom := by
  have h := sound_of_create hl
  have hsame : l.books.SameFor account l.books := ⟨rfl, rfl, Nat.le_refl _, Nat.le_refl _⟩
  rcases observed_run h h rfl hsame ho hheirs with halike | ⟨hfull, hroom⟩
  · exact .inl halike
  · exact .inr ⟨hfull, fun hlast => hroom (hlast.roomy (h.run _))⟩

def neighbours : List (Stamp × Step RecordingPayer) :=
  [(.ofSeconds 7, .call (.ofSeconds 0) ⟨"ann"⟩ (.deposit ⟨"ann"⟩ 5)),
    (.ofSeconds 8, .call (.ofSeconds 1) ⟨"bob"⟩ (.placeOrder ⟨⟨"bob"⟩, 1, 7, 7⟩)),
    (.ofSeconds 9, .call (.ofSeconds 2) ⟨"ann"⟩ (.placeOrder ⟨⟨"ann"⟩, 1, 2, 2⟩)),
    (.ofSeconds 10, .call (.ofSeconds 3) ⟨"keeper"⟩ (.debit ⟨"bob"⟩ 6)),
    (.ofSeconds 11, .call (.ofSeconds 4) ⟨"ann"⟩ (.debit ⟨"ann"⟩ 1)),
    (.ofSeconds 12, .call (.ofSeconds 5) ⟨"keeper"⟩ (.debit ⟨"ann"⟩ 3))]

theorem accounts_isolated_neighbours :
    ∃ l log, create { owner := ⟨"keeper"⟩ } ({} : RecordingPayer) = .ok (l, log) ∧
      let alone := (neighbours.filter (·.2.concerns ⟨"ann"⟩)).map fun s => s.2.stampedWith s.1
      List.Forall₂ Observed.Alike (l.observed ⟨"ann"⟩ (neighbours.map Prod.snd))
        (l.observed ⟨"ann"⟩ alone) ∧
      (l.observed ⟨"ann"⟩ (neighbours.map Prod.snd)).map Observed.balance = [5, 7, 7, 4] ∧
      (l.observed ⟨"ann"⟩ (neighbours.map Prod.snd)).map Observed.outcome =
        [.ok (.balance 5), .ok (.order ⟨1⟩),
          .error (.failed (.unauthorized .debit ⟨"ann"⟩ ⟨"keeper"⟩)), .ok (.balance 4)] ∧
      (l.observed ⟨"ann"⟩ alone).map Observed.outcome =
        [.ok (.balance 5), .ok (.order ⟨0⟩),
          .error (.failed (.unauthorized .debit ⟨"ann"⟩ ⟨"keeper"⟩)), .ok (.balance 4)] := by
  have hl : create { owner := ⟨"keeper"⟩ } ({} : RecordingPayer) = .ok
      (⟨{ owner := ⟨"keeper"⟩ }, { owner := ⟨"keeper"⟩ }, {}⟩, _) :=
    create_eq_ok_iff.mpr ⟨by decide, rfl, rfl⟩
  have hann : (⟨"ann"⟩ : Account) ≠ ⟨"keeper"⟩ := by decide
  have hisolated := accounts_isolated hl hann neighbours (by decide)
  exact ⟨_, _, hl, hisolated.resolve_right fun hfull => hfull.2 (by decide), by decide, by decide,
    by decide⟩

end Ledger

end Depository
