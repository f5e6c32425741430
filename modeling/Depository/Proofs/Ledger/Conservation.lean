import Depository.Proofs.Ledger.Shared
import Mathlib.Algebra.BigOperators.Group.List.Basic
import Mathlib.Algebra.Group.Int.Defs
import Mathlib.Algebra.GroupWithZero.Nat

namespace Depository

namespace Request

def gain (account : Account) : Request → Nat
  | .deposit payee amount => if payee = account then amount.toNat else 0
  | .placeOrder o => if o.owner = account then o.value.toNat else 0
  | _ => 0

def loss (owner account : Account) : Request → Nat
  | .debit payer amount => if payer = account then amount.toNat else 0
  | .withdraw _ amount => if owner = account then amount.toNat else 0
  | _ => 0

/-- The request credits the account, be it with nothing. -/
def Credits (account : Account) : Request → Prop
  | .deposit payee _ => payee = account
  | .placeOrder o => o.owner = account
  | _ => False

end Request

def creditsTo (account : Account) (done : List Answered) : Nat :=
  (done.map fun a => a.request.gain account).sum

def debitsFrom (account : Account) (done : List Answered) : Nat :=
  (done.map fun a => a.request.loss a.owner account).sum

/-- The books hold what the answers so far amount to, and a deposit for each account that one of
them has credited. -/
structure Ledger.Conserved {γ : Type} (l : Ledger γ) (done : List Answered) : Prop where
  balance : ∀ account, ((l.balanceOf account).toNat : Int) =
    creditsTo account done - debitsFrom account done
  range : ∀ account, 0 ≤ (creditsTo account done - debitsFrom account done : Int) ∧
    (creditsTo account done - debitsFrom account done : Int) < 2 ^ 64
  rows : ∀ account, (∃ d ∈ l.books.deposits.rows, d.account = account) ↔
    ∃ a ∈ done, a.request.Credits account

section Update

variable {f : Account → UInt64} {x : Account} {n : UInt64} (y : Account)

lemma toNat_update_add (h : (f x).toNat + n.toNat < UInt64.size) :
    (Function.update f x (f x + n) y).toNat = (f y).toNat + if x = y then n.toNat else 0 := by
  by_cases hxy : x = y
  · subst hxy
    rw [Function.update_self, if_pos rfl, UInt64.toNat_add]
    exact Nat.mod_eq_of_lt h
  · rw [Function.update_of_ne (Ne.symm hxy), if_neg hxy, Nat.add_zero]

lemma toNat_update_sub (h : n ≤ f x) :
    (Function.update f x (f x - n) y).toNat + (if x = y then n.toNat else 0) = (f y).toNat := by
  by_cases hxy : x = y
  · subst hxy
    rw [Function.update_self, if_pos rfl, UInt64.toNat_sub_of_le _ _ h]
    exact Nat.sub_add_cancel (UInt64.le_iff_toNat_le.mp h)
  · rw [Function.update_of_ne (Ne.symm hxy), if_neg hxy, Nat.add_zero]

end Update

namespace Books

variable {b : Books} {settings : Settings} {a : Answered} {kind : EventKind}

lemma balanceOf_enact (b : Books) (audited : Bool) (stamp : Stamp) (kind : EventKind) :
    (b.enact audited stamp kind).balanceOf = (b.carryOut kind).balanceOf := by
  funext account
  rw [balanceOf, enact_deposits]
  rfl

lemma Answers.balance (h : b.Answers settings a kind) (stamp : Stamp) (account : Account) :
    ((b.enact settings.eventLog stamp kind).balanceOf account).toNat +
        a.request.loss a.owner account =
      (b.balanceOf account).toNat + a.request.gain account := by
  have hevent := h.event
  have hw := h.warrants
  rw [h.owner, balanceOf_enact]
  cases hr : a.request with
  | deposit payee amount =>
    obtain rfl := Option.some.inj (hr ▸ hevent)
    rw [carryOut, balanceOf_setBalance]
    exact toNat_update_add account hw.1
  | debit payer amount =>
    obtain rfl := Option.some.inj (hr ▸ hevent)
    rw [carryOut, balanceOf_adjustBalance hw.1]
    exact toNat_update_sub account hw.1
  | placeOrder o =>
    obtain rfl := Option.some.inj (hr ▸ hevent)
    have hbalance : (b.carryOut (.orderPlaced ⟨b.orders.nextSeq⟩ o.owner o.price o.amount o.value
        (b.balanceOf o.owner + o.value))).balanceOf = _ := b.balanceOf_setBalance o.owner _
    rw [hbalance]
    exact toNat_update_add account hw.1
  | withdraw receiver amount =>
    obtain rfl := Option.some.inj (hr ▸ hevent)
    rw [carryOut, balanceOf_adjustBalance hw]
    exact toNat_update_sub account hw
  | recordHex text =>
    rw [hr] at hevent
    obtain ⟨root, -, rfl⟩ := Option.map_eq_some_iff.mp hevent
    rfl
  | recordRoot | transferOwnership =>
    obtain rfl := Option.some.inj (hr ▸ hevent)
    rfl

lemma Answers.isSome_deposit (h : b.Answers settings a kind) (stamp : Stamp) (account : Account) :
    ((b.enact settings.eventLog stamp kind).deposits.get? account).isSome ↔
      (b.deposits.get? account).isSome ∨ a.request.Credits account := by
  have hevent := h.event
  have hset : ∀ payee balance, ((b.setBalance payee balance).deposits.get? account).isSome ↔
      (b.deposits.get? account).isSome ∨ payee = account := by
    intro payee balance
    rw [get?_setBalance]
    by_cases hp : payee = account <;> simp [hp]
  rw [enact_deposits]
  cases hr : a.request with
  | deposit payee amount =>
    obtain rfl := Option.some.inj (hr ▸ hevent)
    exact hset payee _
  | placeOrder o =>
    obtain rfl := Option.some.inj (hr ▸ hevent)
    exact hset o.owner _
  | debit | withdraw =>
    obtain rfl := Option.some.inj (hr ▸ hevent)
    rw [carryOut, isSome_adjustBalance]
    exact (or_iff_left id).symm
  | recordHex text =>
    rw [hr] at hevent
    obtain ⟨root, -, rfl⟩ := Option.map_eq_some_iff.mp hevent
    exact (or_iff_left id).symm
  | recordRoot | transferOwnership =>
    obtain rfl := Option.some.inj (hr ▸ hevent)
    exact (or_iff_left id).symm

/-- Credits and debits on the two sides of a balance, so that nothing is subtracted. -/
structure Balances (b : Books) (done : List Answered) : Prop where
  balance : ∀ account, (b.balanceOf account).toNat + debitsFrom account done =
    creditsTo account done
  rows : ∀ account, (b.deposits.get? account).isSome ↔ ∃ a ∈ done, a.request.Credits account

lemma Balances.opened (owner : Account) : Balances { owner := owner } [] where
  balance _ := rfl
  rows account := by simp [Store.Table.get?]

lemma Balances.answer {done : List Answered} (hb : b.Balances done)
    (h : b.Answers settings a kind) (stamp : Stamp) :
    (b.enact settings.eventLog stamp kind).Balances (done ++ [a]) where
  balance account := by
    have hbefore := hb.balance account
    have hnow := h.balance stamp account
    simp only [creditsTo, debitsFrom, List.map_append, List.map_singleton, List.sum_append,
      List.sum_singleton] at hbefore ⊢
    omega
  rows account := by
    rw [h.isSome_deposit, hb.rows]
    simp [or_and_right, exists_or]

end Books

namespace Ledger

variable {γ : Type} [Payer γ] {l : Ledger γ}

lemma balances_run (h : l.books.Sound) (hb : l.books.Balances []) (steps : List (Step γ)) :
    (l.run steps).books.Balances (l.answered steps) :=
  answered_invariant (P := Books.Balances) h hb (fun _ _ _ stamp _ _ hP ha => hP.answer ha stamp)
    steps

omit [Payer γ] in
lemma conserved_of_balances {done : List Answered} (h : l.books.Sound)
    (hb : l.books.Balances done) : l.Conserved done := by
  have hbalance : ∀ account, ((l.balanceOf account).toNat : Int) =
      creditsTo account done - debitsFrom account done := by
    intro account
    have hnat : (l.balanceOf account).toNat + debitsFrom account done = creditsTo account done :=
      hb.balance account
    omega
  refine ⟨hbalance, fun account => ?_, fun account => ?_⟩
  · rw [← hbalance]
    have hlt := (l.balanceOf account).toNat_lt
    omega
  · rw [← hb.rows, Option.isSome_iff_exists]
    exact exists_congr fun d => (Books.get?_deposits_eq_some_iff h).symm

/-- Whatever has happened to a ledger, each balance is the sum of what was credited to the account
less the sum of what was debited from it, and it is so whichever clients share the ledger and in
whichever order their calls get the lock. -/
theorem balances_conserved {settings : Settings} {payer : γ} {log : List LogRecord}
    (hl : create settings payer = .ok (l, log)) :
    (∀ steps : List (Step γ), (l.run steps).Conserved (l.answered steps)) ∧
      ∀ {ι : Type} [DecidableEq ι] (programs : ι → List (Step γ)) (turns : List ι),
        ((⟨l, false⟩ : SharedLedger γ).run (interleave programs turns)).ledger.Conserved
          ((⟨l, false⟩ : SharedLedger γ).answered (interleave programs turns)) := by
  have hopened : l.books.Sound ∧ l.books.Balances [] := by
    rw [(create_eq_ok_iff.mp hl).2.1]
    exact ⟨.opened settings.owner, .opened settings.owner⟩
  have hrun : ∀ steps : List (Step γ), (l.run steps).Conserved (l.answered steps) := fun steps =>
    conserved_of_balances (hopened.1.run steps) (balances_run hopened.1 hopened.2 steps)
  refine ⟨hrun, fun programs turns => ?_⟩
  obtain ⟨hledger, hanswered⟩ := SharedLedger.run_heard (l := ⟨l, false⟩) (interleave programs turns)
  rw [hledger, hanswered]
  exact hrun _

def rivals : Bool → List (Step RecordingPayer)
  | true => [.call (.ofSeconds 0) ⟨"keeper"⟩ (.deposit ⟨"keeper"⟩ 5),
    .call (.ofSeconds 1) ⟨"keeper"⟩ (.withdraw ⟨"ann"⟩ 3),
    .call (.ofSeconds 2) ⟨"keeper"⟩ (.withdraw ⟨"ann"⟩ 3)]
  | false => [.tune (·.breakNext)]

theorem balances_conserved_interrupted :
    ∃ l log, create { owner := ⟨"keeper"⟩ } ({} : RecordingPayer) = .ok (l, log) ∧
      (l.run (rivals false ++ rivals true)).Conserved (l.answered (rivals false ++ rivals true)) ∧
      (l.run (rivals false ++ rivals true)).balanceOf ⟨"keeper"⟩ = 2 ∧
      ((⟨l, false⟩ : SharedLedger _).run (interleave rivals [true, false, true, true])).ledger.Conserved
        ((⟨l, false⟩ : SharedLedger _).answered (interleave rivals [true, false, true, true])) ∧
      ((⟨l, false⟩ : SharedLedger _).run
        (interleave rivals [true, false, true, true])).ledger.balanceOf ⟨"keeper"⟩ = 5 := by
  have hl : create { owner := ⟨"keeper"⟩ } ({} : RecordingPayer) = .ok
      (⟨{ owner := ⟨"keeper"⟩ }, { owner := ⟨"keeper"⟩ }, {}⟩, _) :=
    create_eq_ok_iff.mpr ⟨by decide, rfl, rfl⟩
  obtain ⟨halone, hshared⟩ := balances_conserved hl
  exact ⟨_, _, hl, halone _, by decide, hshared rivals [true, false, true, true], by decide⟩

end Ledger

end Depository
