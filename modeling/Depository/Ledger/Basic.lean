import Depository.Ledger.Request
import Depository.Settings

namespace Depository

structure Ledger (γ : Type) where
  books : Books
  settings : Settings
  payer : γ

structure Performed (γ : Type) where
  outcome : Except Abort Reply
  ledger : Ledger γ
  log : List LogRecord

def Performed.panicked {γ : Type} (p : Performed γ) : Bool :=
  match p.outcome with
  | .error .panicked => true
  | _ => false

namespace Ledger

variable {γ : Type}

def version : String := "0.1.0"

def create (settings : Settings) (payer : γ) : Except Failure (Ledger γ × List LogRecord) := do
  settings.validate
  return (⟨{ owner := settings.owner }, settings, payer⟩,
    [.ledgerOpened version settings.owner settings.maxRootBytes settings.eventLog])

def session (l : Ledger γ) (stamp : Stamp) : Session γ where
  tx := .begin stamp l.books l.settings.eventLog
  payer := l.payer

/-- Runs a request in a transaction of its own. The payer keeps the state it has reached; the
books change only if there is an answer. -/
def perform [Payer γ] (l : Ledger γ) (stamp : Stamp) (caller : Account) (r : Request) :
    Performed γ :=
  match (r.attempt l.settings.maxRootBytes caller).run (l.session stamp) with
  | (.ok reply, s) =>
    let changes := s.tx.changes
    { outcome := .ok reply
      ledger := { l with books := l.books.apply changes, payer := s.payer }
      log := s.log ++ changes.logRecords ++
        [.committed stamp.tx r.operation caller changes.rowsWritten] }
  | (.error (.failed f), s) =>
    { outcome := .error (.failed f)
      ledger := { l with payer := s.payer }
      log := s.log ++ [.rolledBack stamp.tx r.operation caller f] }
  | (.error .panicked, s) =>
    { outcome := .error .panicked, ledger := { l with payer := s.payer }, log := s.log }

def owner (l : Ledger γ) : Account := l.books.owner

def balanceOf (l : Ledger γ) (account : Account) : UInt64 := l.books.balanceOf account

def orders (l : Ledger γ) : List Order := l.books.orders.rows

def checkpoints (l : Ledger γ) : List Checkpoint := l.books.checkpoints.rows

def events (l : Ledger γ) : List Event := l.books.events.rows

def findCheckpoint (l : Ledger γ) (root : Root) : Option Checkpoint := l.books.findCheckpoint root

def nextOrderId (l : Ledger γ) : OrderId := ⟨l.books.orders.nextSeq⟩

def nextCheckpointId (l : Ledger γ) : CheckpointId := ⟨l.books.checkpoints.nextSeq⟩

def verify (l : Ledger γ) : Except Failure Unit := verifyChain l.events

end Ledger

end Depository
