import Depository.Staging

namespace Depository

inductive Request
  | deposit (account : Account) (amount : UInt64)
  | debit (account : Account) (amount : UInt64)
  | placeOrder (order : OrderRequest)
  | recordRoot (root : Root)
  | recordHex (text : String)
  | withdraw (receiver : Account) (amount : UInt64)
  | transferOwnership (new : Account)
  deriving DecidableEq, Repr

inductive Reply
  | balance (amount : UInt64)
  | order (id : OrderId)
  | checkpoint (id : CheckpointId)
  | done
  deriving DecidableEq, Repr

namespace Request

def operation : Request → Operation
  | deposit .. => .deposit
  | debit .. => .debit
  | placeOrder .. => .placeOrder
  | recordRoot .. | recordHex .. => .recordCheckpoint
  | withdraw .. => .withdraw
  | transferOwnership .. => .transferOwnership

def subject : Request → Option Account
  | deposit account _ => some account
  | placeOrder order => some order.owner
  | _ => none

variable {γ : Type} [Payer γ]

def stage (maxRootBytes : UInt64) (c : Capability) : Request → Staging γ Reply
  | deposit account amount => return .balance (← Staging.depositFunds c account amount)
  | debit account amount => return .balance (← Staging.debitFunds c account amount)
  | placeOrder order => return .order (← Staging.placeOrder c order)
  | recordRoot root => return .checkpoint (← Staging.recordCheckpoint c root maxRootBytes)
  | recordHex text => do
    let root ← Staging.check (Root.ofHex text)
    return .checkpoint (← Staging.recordCheckpoint c root maxRootBytes)
  | withdraw receiver amount => do
    Staging.withdraw c receiver amount
    return .done
  | transferOwnership new => do
    Staging.transferOwnership c new
    return .done

/-- Admits the caller before anything else is looked at. -/
def attempt (maxRootBytes : UInt64) (caller : Account) (r : Request) : Staging γ Reply := do
  let c ← Staging.granted (Capability.grant r.operation caller (← Staging.tx).owner r.subject)
  r.stage maxRootBytes c

end Request

end Depository
