import Depository.Ledger.Basic
import Depository.Proofs.Staging

/-! Requests in plain terms: on books in order, a request meets its first obstacle and changes
nothing, or it comes to one event, which is carried out in full. -/

namespace Depository

open Store

namespace EventKind

def reply : EventKind → Reply
  | deposited _ _ balance => .balance balance
  | debited _ _ balance => .balance balance
  | orderPlaced id _ _ _ _ _ => .order id
  | checkpointRecorded id _ => .checkpoint id
  | withdrawn _ _ => .done
  | ownershipTransferred _ _ => .done

def payout? : EventKind → Option Instruction
  | withdrawn receiver amount => some ⟨receiver, amount⟩
  | _ => none

end EventKind

def Request.principal (r : Request) (owner : Account) : Account :=
  r.subject.getD owner

namespace Books

def judgeRoot (b : Books) (maxRootBytes : UInt64) (root : Root) : Except Failure EventKind :=
  if root.size = 0 then .error (.malformed "checkpoint root is empty")
  else if maxRootBytes.toNat < root.size then
    .error (.malformed s!"checkpoint root is {root.size} bytes, limit is {maxRootBytes}")
  else if (b.findCheckpoint root).isSome then .error (.duplicateEntry "checkpoint.root" root.toHex)
  else if ¬ HasNext b.checkpoints.nextSeq then .error (.idSpaceExhausted "checkpoint")
  else .ok (.checkpointRecorded ⟨b.checkpoints.nextSeq⟩ root)

def judge (b : Books) (maxRootBytes : UInt64) : Request → Except Failure EventKind
  | .deposit account amount =>
    if amount = 0 then .error (.malformed "deposit amount must be > 0")
    else if UInt64.size ≤ (b.balanceOf account).toNat + amount.toNat then
      .error (.balanceOverflow account (b.balanceOf account) amount)
    else .ok (.deposited account amount (b.balanceOf account + amount))
  | .debit account amount =>
    if b.balanceOf account < amount then
      .error (.insufficientFunds account amount (b.balanceOf account))
    else .ok (.debited account amount (b.balanceOf account - amount))
  | .placeOrder o =>
    if UInt64.size ≤ (b.balanceOf o.owner).toNat + o.value.toNat then
      .error (.balanceOverflow o.owner (b.balanceOf o.owner) o.value)
    else if ¬ HasNext b.orders.nextSeq then .error (.idSpaceExhausted "order")
    else .ok (.orderPlaced ⟨b.orders.nextSeq⟩ o.owner o.price o.amount o.value
      (b.balanceOf o.owner + o.value))
  | .recordRoot root => b.judgeRoot maxRootBytes root
  | .recordHex text =>
    match Root.ofHex text with
    | .ok root => b.judgeRoot maxRootBytes root
    | .error f => .error f
  | .withdraw receiver amount =>
    if b.balanceOf b.owner < amount then
      .error (.insufficientFunds b.owner amount (b.balanceOf b.owner))
    else .ok (.withdrawn receiver amount)
  | .transferOwnership new =>
    if new.isEmpty then .error (.malformed "new owner must not be empty")
    else .ok (.ownershipTransferred b.owner new)

def withRoom (b : Books) (audited : Bool) : Except Failure EventKind → Except Failure EventKind
  | .ok kind =>
    if audited ∧ ¬ HasNext b.events.nextSeq then .error (.idSpaceExhausted "event") else .ok kind
  | .error f => .error f

/-- Consent is looked at first, and room in the trail last. -/
def ruling (b : Books) (settings : Settings) (caller : Account) (r : Request) :
    Except Failure EventKind :=
  if caller ≠ r.principal b.owner then
    .error (.unauthorized r.operation caller (r.principal b.owner))
  else b.withRoom settings.eventLog (b.judge settings.maxRootBytes r)

lemma judge_warrants {b : Books} {maxRootBytes : UInt64} {r : Request} {kind : EventKind}
    (h : b.judge maxRootBytes r = .ok kind) : b.Warrants kind := by
  have hroot : ∀ root, b.judgeRoot maxRootBytes root = .ok kind → b.Warrants kind := by
    intro root h
    simp only [judgeRoot] at h
    split_ifs at h with _ _ hf hn
    obtain rfl := Except.ok.inj h
    exact ⟨by simpa using hf, rfl, hn⟩
  cases r with
  | deposit account amount =>
    simp only [judge] at h
    split_ifs at h with _ hlt
    obtain rfl := Except.ok.inj h
    exact ⟨Nat.not_le.mp hlt, rfl⟩
  | debit account amount =>
    simp only [judge] at h
    split_ifs at h with hlt
    obtain rfl := Except.ok.inj h
    exact ⟨UInt64.not_lt.mp hlt, rfl⟩
  | placeOrder o =>
    simp only [judge] at h
    split_ifs at h with hlt hn
    obtain rfl := Except.ok.inj h
    exact ⟨Nat.not_le.mp hlt, rfl, rfl, hn⟩
  | recordRoot root => exact hroot root h
  | recordHex text =>
    simp only [judge] at h
    cases hx : Root.ofHex text with
    | error f => simp [hx] at h
    | ok root => exact hroot root (by simpa [hx] using h)
  | withdraw receiver amount =>
    simp only [judge] at h
    split_ifs at h with hlt
    obtain rfl := Except.ok.inj h
    exact UInt64.not_lt.mp hlt
  | transferOwnership new =>
    simp only [judge] at h
    split_ifs at h
    obtain rfl := Except.ok.inj h
    rfl

lemma ruling_eq_ok_iff {b : Books} {settings : Settings} {caller : Account} {r : Request}
    {kind : EventKind} :
    b.ruling settings caller r = .ok kind ↔
      caller = r.principal b.owner ∧ b.judge settings.maxRootBytes r = .ok kind ∧
        (settings.eventLog = true → HasNext b.events.nextSeq) := by
  rw [ruling]
  by_cases hc : caller = r.principal b.owner
  · cases hj : b.judge settings.maxRootBytes r with
    | error f => simp [hc, withRoom]
    | ok k =>
      cases hl : settings.eventLog with
      | false => simp [hc, withRoom]
      | true => by_cases hn : HasNext b.events.nextSeq <;> simp [hc, hn, withRoom]
  · simp [hc]

end Books

namespace Ledger

variable {γ : Type} [Payer γ] (l : Ledger γ) (stamp : Stamp)

def settle (kind : EventKind) : Except Abort Reply × Ledger γ :=
  let books := l.books.enact l.settings.eventLog stamp kind
  match kind.payout? with
  | none => (.ok kind.reply, { l with books := books })
  | some i =>
    match Payer.pay l.payer i with
    | (.accepted, payer) => (.ok kind.reply, { l with books := books, payer := payer })
    | (.rejected reason, payer) =>
      (.error (.failed (.transferRejected i.receiver i.amount reason)), { l with payer := payer })
    | (.panicked, payer) => (.error .panicked, { l with payer := payer })

def follow : Except Failure EventKind → Except Abort Reply × Ledger γ
  | .ok kind => l.settle stamp kind
  | .error f => (.error (.failed f), l)

end Ledger

end Depository
