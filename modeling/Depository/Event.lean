import Depository.Checkpoint
import Depository.Json.Tagged
import Depository.Order
import Depository.Sha256
import Depository.Stamp

namespace Depository

inductive EventKind
  | deposited (account : Account) (amount balance : UInt64)
  | debited (account : Account) (amount balance : UInt64)
  | orderPlaced (id : OrderId) (owner : Account) (price amount value balance : UInt64)
  | checkpointRecorded (id : CheckpointId) (root : Root)
  | withdrawn (receiver : Account) (amount : UInt64)
  | ownershipTransferred (previous new : Account)
  deriving DecidableEq, Repr

namespace EventKind

open Json

def label : EventKind → String
  | deposited .. => "DEPOSITED"
  | debited .. => "DEBITED"
  | orderPlaced .. => "ORDER_PLACED"
  | checkpointRecorded .. => "CHECKPOINT_RECORDED"
  | withdrawn .. => "WITHDRAWN"
  | ownershipTransferred .. => "OWNERSHIP_TRANSFERRED"

def movementFields : Fields Scalar (Account × UInt64 × UInt64 × Unit) :=
  .field "account" Account.form none <| .field "amount" u64 none <| .field "balance" u64 none .done

def orderFields :
    Fields Scalar (OrderId × Account × UInt64 × UInt64 × UInt64 × UInt64 × Unit) :=
  .field "order_id" OrderId.form none <| .field "owner" Account.form none <|
  .field "price" u64 none <| .field "amount" u64 none <| .field "value" u64 none <|
  .field "balance" u64 none .done

def checkpointFields : Fields Scalar (CheckpointId × Root × Unit) :=
  .field "id" CheckpointId.form none <| .field "root" Root.form none .done

def payoutFields : Fields Scalar (Account × UInt64 × Unit) :=
  .field "receiver" Account.form none <| .field "amount" u64 none .done

def successionFields : Fields Scalar (Account × Account × Unit) :=
  .field "previous" Account.form none <| .field "new" Account.form none .done

def tagged : Tagged EventKind where
  name := "EventKind"
  key := "type"
  variants := [
    .of "deposited" "struct variant EventKind::Deposited" movementFields
      fun (account, amount, balance, _) => deposited account amount balance,
    .of "debited" "struct variant EventKind::Debited" movementFields
      fun (account, amount, balance, _) => debited account amount balance,
    .of "order_placed" "struct variant EventKind::OrderPlaced" orderFields
      fun (id, owner, price, amount, value, balance, _) =>
        orderPlaced id owner price amount value balance,
    .of "checkpoint_recorded" "struct variant EventKind::CheckpointRecorded" checkpointFields
      fun (id, root, _) => checkpointRecorded id root,
    .of "withdrawn" "struct variant EventKind::Withdrawn" payoutFields
      fun (receiver, amount, _) => withdrawn receiver amount,
    .of "ownership_transferred" "struct variant EventKind::OwnershipTransferred" successionFields
      fun (previous, new, _) => ownershipTransferred previous new]

def write : EventKind → List Char
  | deposited account amount balance =>
    tagged.writeAs "deposited" movementFields (account, amount, balance, ())
  | debited account amount balance =>
    tagged.writeAs "debited" movementFields (account, amount, balance, ())
  | orderPlaced id owner price amount value balance =>
    tagged.writeAs "order_placed" orderFields (id, owner, price, amount, value, balance, ())
  | checkpointRecorded id root =>
    tagged.writeAs "checkpoint_recorded" checkpointFields (id, root, ())
  | withdrawn receiver amount => tagged.writeAs "withdrawn" payoutFields (receiver, amount, ())
  | ownershipTransferred previous new =>
    tagged.writeAs "ownership_transferred" successionFields (previous, new, ())

def formatWithin (depth : Nat) : Format EventKind where
  write := write
  read := tagged.read (nestingLimit - depth - 1)

def format : Format EventKind := formatWithin 0

end EventKind

def genesis : Digest := Vector.replicate 32 0

def littleEndian (n : UInt64) : List UInt8 :=
  (List.range 8).map fun i => (n >>> (8 * i).toUInt64).toUInt8

def eventBytes (seq : UInt64) (previous : Digest) (kind : EventKind) : List UInt8 :=
  Text.utf8 "custody:event:v1:".toList ++ littleEndian seq ++ previous.toList ++
    Text.utf8 kind.write

def eventDigest (seq : UInt64) (previous : Digest) (kind : EventKind) : Digest :=
  sha256 (eventBytes seq previous kind)

structure Event where
  seq : UInt64
  stamp : Stamp
  kind : EventKind
  previous : Digest
  digest : Digest
  deriving DecidableEq

namespace Event

def chained (seq : UInt64) (stamp : Stamp) (kind : EventKind) (previous : Digest) : Event :=
  ⟨seq, stamp, kind, previous, eventDigest seq previous kind⟩

def isIntact (e : Event) : Bool :=
  eventDigest e.seq e.previous e.kind = e.digest

def digestForm : Json.Format Digest := Json.vector Json.byte 32

def format : Json.Format Event := Json.Record.format
  { name := "struct LedgerEvent"
    fields := .field "seq" Json.u64.format none <| .field "tx_id" TxId.form.format none <|
      .field "kind" (EventKind.formatWithin 1) none <| .field "prev_digest" digestForm none <|
      .field "digest" digestForm none <| .field "recorded_at" Timestamp.form.format none .done
    make := fun (seq, tx, kind, previous, digest, time, _) =>
      ⟨seq, ⟨tx, time⟩, kind, previous, digest⟩
    parts := fun e => (e.seq, e.stamp.tx, e.kind, e.previous, e.digest, e.stamp.time, ()) }

end Event

inductive LinkFlaw
  | seq (expected : UInt64)
  | link
  | contents (recorded : Digest)
  deriving DecidableEq

def LinkFlaw.message : LinkFlaw → String
  | seq expected => s!"expected seq {expected}"
  | link => "prev_digest does not link to preceding event"
  | contents recorded => s!"digest {Hex.toText recorded.toList} does not match contents"

def Event.linkFlaw? (seq : UInt64) (previous : Digest) (e : Event) : Option LinkFlaw :=
  if e.seq ≠ seq then some (.seq seq)
  else if e.previous ≠ previous then some .link
  else if ¬ e.isIntact then some (.contents e.digest)
  else none

def verifyFrom (seq : UInt64) (previous : Digest) : List Event → Except Failure Unit
  | [] => .ok ()
  | e :: es =>
    match e.linkFlaw? seq previous with
    | some flaw => .error (.chainBroken e.seq flaw.message)
    | none => verifyFrom (seq + 1) e.digest es

def verifyChain (es : List Event) : Except Failure Unit :=
  verifyFrom 0 genesis es

end Depository
