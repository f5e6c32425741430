import Depository.Deposit
import Depository.Event
import Depository.LogRecord
import Depository.Store.Overlay

namespace Depository

open Store

def depositSchema : Schema Deposit Account where
  name := "deposit"
  key := Deposit.account
  keyText a := s!"Account({Text.quoted a.name})"

def orderSchema : Schema Order OrderId where
  name := "order"
  key := Order.id
  keyText id := s!"OrderId({id.value})"

def checkpointSchema : Schema Checkpoint CheckpointId where
  name := "checkpoint"
  key := Checkpoint.id
  keyText id := s!"CheckpointId({id.value})"
  index := some ⟨"checkpoint.root", fun c => c.root.bytes⟩

def eventSchema : Schema Event UInt64 where
  name := "event"
  key := Event.seq
  keyText seq := toString seq

structure Books where
  deposits : Table depositSchema := {}
  orders : Table orderSchema := {}
  checkpoints : Table checkpointSchema := {}
  events : Table eventSchema := {}
  owner : Account

structure Changes where
  tx : TxId
  deposits : WriteSet depositSchema
  orders : WriteSet orderSchema
  checkpoints : WriteSet checkpointSchema
  events : WriteSet eventSchema
  owner : Option Account

def Changes.rowsWritten (c : Changes) : Nat :=
  c.deposits.rows.length + c.orders.rows.length + c.checkpoints.rows.length + c.events.rows.length

namespace Store.WriteSet

variable {ρ κ : Type} {s : Schema ρ κ}

def logRecord (w : WriteSet s) : LogRecord :=
  .writesApplied s.name w.rows.length w.nextSeq

end Store.WriteSet

def Changes.logRecords (c : Changes) : List LogRecord :=
  [c.deposits.logRecord, c.orders.logRecord, c.checkpoints.logRecord, c.events.logRecord]

namespace Books

def apply (b : Books) (c : Changes) : Books where
  deposits := b.deposits.apply c.deposits
  orders := b.orders.apply c.orders
  checkpoints := b.checkpoints.apply c.checkpoints
  events := b.events.apply c.events
  owner := c.owner.getD b.owner

def balanceOf (b : Books) (account : Account) : UInt64 :=
  ((b.deposits.get? account).map Deposit.amount).getD 0

def findCheckpoint (b : Books) (root : Root) : Option Checkpoint :=
  b.checkpoints.findUnique? root.bytes

end Books

structure Transaction where
  stamp : Stamp
  audited : Bool
  deposits : Overlay depositSchema
  orders : Overlay orderSchema
  checkpoints : Overlay checkpointSchema
  events : Overlay eventSchema
  committedOwner : Account
  stagedOwner : Option Account := none

namespace Transaction

def begin (stamp : Stamp) (b : Books) (audited : Bool) : Transaction where
  stamp := stamp
  audited := audited
  deposits := .begin b.deposits
  orders := .begin b.orders
  checkpoints := .begin b.checkpoints
  events := .begin b.events
  committedOwner := b.owner

def owner (t : Transaction) : Account :=
  t.stagedOwner.getD t.committedOwner

def changes (t : Transaction) : Changes where
  tx := t.stamp.tx
  deposits := t.deposits.writeSet
  orders := t.orders.writeSet
  checkpoints := t.checkpoints.writeSet
  events := t.events.writeSet
  owner := t.stagedOwner

def digestBefore (t : Transaction) (seq : UInt64) : Digest :=
  if seq = 0 then genesis
  else ((t.events.get? (seq - 1)).map Event.digest).getD genesis

end Transaction

end Depository
