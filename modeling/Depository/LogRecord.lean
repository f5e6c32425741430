import Depository.Checkpoint
import Depository.Order
import Depository.Stamp

namespace Depository

inductive LogRecord
  | ledgerOpened (version : String) (owner : Account) (maxRootBytes : UInt64) (eventLog : Bool)
  | denied (operation : Operation) (caller required : Account)
  | creditStaged (tx : TxId) (account : Account) (amount balance : UInt64)
  | debitStaged (tx : TxId) (account : Account) (amount balance : UInt64)
  | orderStaged (tx : TxId) (order : Order)
  | duplicateRoot (tx : TxId) (root : Root) (existing : CheckpointId)
  | transferRejected (tx : TxId) (receiver : Account) (amount : UInt64) (reason : String)
  | withdrawalStaged (tx : TxId) (receiver : Account) (amount ownerBalance : UInt64)
  | writesApplied (table : String) (rows : Nat) (nextSeq : UInt64)
  | committed (tx : TxId) (operation : Operation) (caller : Account) (rows : Nat)
  | rolledBack (tx : TxId) (operation : Operation) (caller : Account) (failure : Failure)
  | subscriberPresent
  deriving DecidableEq

namespace LogRecord

def denial? : Failure → Option LogRecord
  | .unauthorized operation caller required => some (.denied operation caller required)
  | _ => none

inductive Level
  | trace
  | debug
  | info
  | warn
  deriving DecidableEq, Repr

def Level.label : Level → String
  | trace => "TRACE"
  | debug => "DEBUG"
  | info => "INFO"
  | warn => "WARN"

inductive Value
  | number (n : Nat)
  | flag (b : Bool)
  | text (s : String)
  deriving DecidableEq, Repr

def level : LogRecord → Level
  | writesApplied .. => .trace
  | ledgerOpened .. | committed .. => .info
  | denied .. | transferRejected .. => .warn
  | _ => .debug

def message : LogRecord → String
  | ledgerOpened .. => "Ledger initialized"
  | denied .. => "Authorization denied"
  | creditStaged .. => "Credit staged"
  | debitStaged .. => "Debit staged"
  | orderStaged .. => "Order staged"
  | duplicateRoot .. => "Duplicate checkpoint root"
  | transferRejected .. => "Outbound transfer rejected"
  | withdrawalStaged .. => "Withdrawal staged"
  | writesApplied .. => "Staged writes applied"
  | committed .. => "Committed"
  | rolledBack .. => "Rolled back"
  | subscriberPresent => "Tracing subscriber already installed"

def amount (n : UInt64) : Value := .number n.toNat

def tx? : LogRecord → Option TxId
  | creditStaged tx .. | debitStaged tx .. | orderStaged tx .. | duplicateRoot tx ..
  | transferRejected tx .. | withdrawalStaged tx .. | committed tx .. | rolledBack tx .. => some tx
  | _ => none

/-- The fields beside the transaction, which goes before them. -/
def fields : LogRecord → List (String × Value)
  | ledgerOpened version owner maxRootBytes eventLog =>
    [("version", .text version), ("owner", .text owner.name),
      ("max_root_bytes", amount maxRootBytes), ("event_log", .flag eventLog)]
  | denied operation caller required =>
    [("op", .text operation.label), ("policy", .text operation.policy.label),
      ("caller", .text caller.name), ("required", .text required.name)]
  | creditStaged _ account n balance | debitStaged _ account n balance =>
    [("account", .text account.name), ("amount", amount n), ("balance", amount balance)]
  | orderStaged _ o =>
    [("order", .text o.id.label), ("owner", .text o.owner.name), ("price", amount o.price),
      ("amount", amount o.amount), ("value", amount o.value)]
  | duplicateRoot _ root existing =>
    [("root", .text root.toHex), ("existing", .text existing.label)]
  | transferRejected _ receiver n reason =>
    [("receiver", .text receiver.name), ("amount", amount n), ("reason", .text reason)]
  | withdrawalStaged _ receiver n ownerBalance =>
    [("receiver", .text receiver.name), ("amount", amount n),
      ("owner_balance", amount ownerBalance)]
  | writesApplied table rows nextSeq =>
    [("table", .text table), ("rows", .number rows), ("next_seq", amount nextSeq)]
  | committed _ operation caller rows =>
    [("op", .text operation.label), ("caller", .text caller.name), ("rows", .number rows)]
  | rolledBack _ operation caller failure =>
    [("op", .text operation.label), ("caller", .text caller.name),
      ("kind", .text failure.category.label), ("error", .text failure.message)]
  | subscriberPresent => []

structure Line where
  level : Level
  message : String
  fields : List (String × Value)
  deriving DecidableEq, Repr

def line (r : LogRecord) : Line where
  level := r.level
  message := r.message
  fields := (r.tx?.map fun tx => ("tx", .text tx.label)).toList ++ r.fields

end LogRecord

end Depository
