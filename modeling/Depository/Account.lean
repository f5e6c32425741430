import Depository.Hex
import Depository.Json.Format

namespace Depository

structure Account where
  name : String
  deriving DecidableEq, Repr

namespace Account

instance : Ord Account where
  compare a b := compare a.name b.name

def isEmpty (a : Account) : Bool :=
  a.name = ""

def ofKey (key : List UInt8) : Account :=
  ⟨Hex.toText key⟩

def form : Json.Scalar Account :=
  Json.text.imap mk name

end Account

inductive Policy
  | ownerOnly
  | selfAttested
  deriving DecidableEq, Repr

inductive Operation
  | deposit
  | debit
  | placeOrder
  | recordCheckpoint
  | withdraw
  | transferOwnership
  deriving DecidableEq, Repr

namespace Policy

def name : Policy → String
  | ownerOnly => "OwnerOnly"
  | selfAttested => "SelfAttested"

def label : Policy → String
  | ownerOnly => "OWNER_ONLY"
  | selfAttested => "SELF_ATTESTED"

def all : List Policy := [ownerOnly, selfAttested]

def format : Json.Format Policy :=
  Json.choice (all.map fun p => (p.name, p)) name

end Policy

namespace Operation

def name : Operation → String
  | deposit => "Deposit"
  | debit => "Debit"
  | placeOrder => "PlaceOrder"
  | recordCheckpoint => "RecordCheckpoint"
  | withdraw => "Withdraw"
  | transferOwnership => "TransferOwnership"

def label : Operation → String
  | deposit => "DEPOSIT"
  | debit => "DEBIT"
  | placeOrder => "PLACE_ORDER"
  | recordCheckpoint => "RECORD_CHECKPOINT"
  | withdraw => "WITHDRAW"
  | transferOwnership => "TRANSFER_OWNERSHIP"

def all : List Operation :=
  [deposit, debit, placeOrder, recordCheckpoint, withdraw, transferOwnership]

def policy : Operation → Policy
  | deposit | placeOrder => .selfAttested
  | debit | recordCheckpoint | withdraw | transferOwnership => .ownerOnly

def format : Json.Format Operation :=
  Json.choice (all.map fun o => (o.name, o)) name

end Operation

end Depository
