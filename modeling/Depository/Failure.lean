import Depository.Account

namespace Depository

inductive Failure
  | unauthorized (operation : Operation) (caller required : Account)
  | insufficientFunds (account : Account) (requested available : UInt64)
  | balanceOverflow (account : Account) (current amount : UInt64)
  | duplicateEntry (index key : String)
  | duplicateKey (table key : String)
  | idSpaceExhausted (table : String)
  | transferRejected (receiver : Account) (amount : UInt64) (reason : String)
  | malformed (reason : String)
  | configuration (reason : String)
  | serialization (reason : String)
  | io (reason : String)
  | internal (reason : String)
  | chainBroken (seq : UInt64) (reason : String)
  deriving DecidableEq, Repr

namespace Failure

inductive Category
  | authorization
  | duplicateEntry
  | insufficientFunds
  | overflow
  | malformedInput
  | externalCollaborator
  | configuration
  | internal
  deriving DecidableEq, Repr

namespace Category

def name : Category → String
  | authorization => "Authorization"
  | duplicateEntry => "DuplicateEntry"
  | insufficientFunds => "InsufficientFunds"
  | overflow => "Overflow"
  | malformedInput => "MalformedInput"
  | externalCollaborator => "ExternalCollaborator"
  | configuration => "Configuration"
  | internal => "Internal"

def label : Category → String
  | authorization => "AUTHORIZATION"
  | duplicateEntry => "DUPLICATE_ENTRY"
  | insufficientFunds => "INSUFFICIENT_FUNDS"
  | overflow => "OVERFLOW"
  | malformedInput => "MALFORMED_INPUT"
  | externalCollaborator => "EXTERNAL_COLLABORATOR"
  | configuration => "CONFIGURATION"
  | internal => "INTERNAL"

def all : List Category :=
  [authorization, duplicateEntry, insufficientFunds, overflow, malformedInput,
    externalCollaborator, configuration, internal]

def format : Json.Format Category :=
  Json.choice (all.map fun c => (c.name, c)) name

end Category

def category : Failure → Category
  | unauthorized .. => .authorization
  | insufficientFunds .. => .insufficientFunds
  | balanceOverflow .. | idSpaceExhausted .. => .overflow
  | duplicateEntry .. | duplicateKey .. => .duplicateEntry
  | transferRejected .. => .externalCollaborator
  | malformed .. => .malformedInput
  | configuration .. => .configuration
  | serialization .. | io .. | internal .. | chainBroken .. => .internal

/-- The first digit of a code tells the class: 1 authority, 2 balances, 4 tables, 5 payouts. -/
def message : Failure → String
  | unauthorized operation caller required =>
    s!"LG_ERR_100: {operation.label} requires authority of {required.name}, caller is {caller.name}"
  | insufficientFunds account requested available =>
    s!"LG_ERR_200: Insufficient funds for {account.name}: " ++
      s!"requested {requested}, available {available}"
  | balanceOverflow account current amount =>
    s!"LG_ERR_201: Balance overflow for {account.name}: {current} + {amount}"
  | duplicateEntry index key => s!"LG_ERR_400: Duplicate entry in {index}: {key}"
  | duplicateKey table key => s!"LG_ERR_401: Primary key already present in {table}: {key}"
  | idSpaceExhausted table => s!"LG_ERR_402: Id space exhausted for {table}"
  | transferRejected receiver amount reason =>
    s!"LG_ERR_500: Transfer of {amount} to {receiver.name} rejected: {reason}"
  | malformed reason => s!"LG_ERR_900: Malformed input: {reason}"
  | configuration reason => s!"LG_ERR_901: Configuration error: {reason}"
  | serialization reason => s!"LG_ERR_902: Serialization error: {reason}"
  | io reason => s!"LG_ERR_903: I/O error: {reason}"
  | internal reason => s!"LG_ERR_904: Internal error: {reason}"
  | chainBroken seq reason => s!"LG_ERR_905: Event chain broken at seq {seq}: {reason}"

end Failure

end Depository
