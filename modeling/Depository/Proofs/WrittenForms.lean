import Depository.Deposit
import Depository.Payout
import Depository.Proofs.Json.RoundTrip
import Depository.Proofs.Trail.Encoding

namespace Depository

open Json

lemma Account.returns_form : Account.form.Returns :=
  Scalar.returns_text.imap fun _ => rfl

lemma OrderId.returns_form : OrderId.form.Returns :=
  Scalar.returns_u64.imap fun _ => rfl

lemma CheckpointId.returns_form : CheckpointId.form.Returns :=
  Scalar.returns_u64.imap fun _ => rfl

lemma Root.returns_form : Root.form.Returns := by
  refine Scalar.returns_text.refine fun root => ?_
  rw [Root.toHex, Hex.ofText_toText]

lemma Checkpoint.returns_format : Checkpoint.format.Returns :=
  Record.returns (by decide)
    ⟨CheckpointId.returns_form.format, Root.returns_form.format, trivial⟩ fun _ => rfl

lemma Deposit.returns_format : Deposit.format.Returns :=
  Record.returns (by decide)
    ⟨Account.returns_form.format, Scalar.returns_u64.format, trivial⟩ fun _ => rfl

lemma Instruction.returns_format : Instruction.format.Returns :=
  Record.returns (by decide)
    ⟨Account.returns_form.format, Scalar.returns_u64.format, trivial⟩ fun _ => rfl

lemma OrderRequest.returns_format : OrderRequest.format.Returns :=
  Record.returns (by decide)
    ⟨Account.returns_form.format, Scalar.returns_u64.format, Scalar.returns_u64.format,
      Scalar.returns_u64.format, trivial⟩ fun _ => rfl

lemma Order.returns_format : Order.format.Returns :=
  Record.returns (by decide)
    ⟨OrderId.returns_form.format, Account.returns_form.format, Scalar.returns_u64.format,
      Scalar.returns_u64.format, Scalar.returns_u64.format, trivial⟩ fun _ => rfl

namespace EventKind

lemma returns_movementFields : movementFields.All Scalar.Returns :=
  ⟨Account.returns_form, Scalar.returns_u64, Scalar.returns_u64, trivial⟩

lemma returns_orderFields : orderFields.All Scalar.Returns :=
  ⟨OrderId.returns_form, Account.returns_form, Scalar.returns_u64, Scalar.returns_u64,
    Scalar.returns_u64, Scalar.returns_u64, trivial⟩

lemma returns_checkpointFields : checkpointFields.All Scalar.Returns :=
  ⟨CheckpointId.returns_form, Root.returns_form, trivial⟩

lemma returns_payoutFields : payoutFields.All Scalar.Returns :=
  ⟨Account.returns_form, Scalar.returns_u64, trivial⟩

lemma returns_successionFields : successionFields.All Scalar.Returns :=
  ⟨Account.returns_form, Account.returns_form, trivial⟩

structure Shape (kind : EventKind) where
  {γ : Type}
  {name : String}
  {fields : Fields Scalar γ}
  {make : γ → EventKind}
  {parts : γ}
  known : tagged.variant (.text kind.tag) = .ok (.of kind.tag name fields make)
  written : kind.write = tagged.writeAs kind.tag fields parts
  made : make parts = kind
  tag_make : ∀ v, (make v).tag = kind.tag
  returns : fields.All Scalar.Returns
  names_nodup : fields.names.Nodup
  key_free : tagged.key ∉ fields.names

def shape : (kind : EventKind) → Shape kind
  | deposited .. => ⟨rfl, rfl, rfl, fun _ => rfl, returns_movementFields, by decide, by decide⟩
  | debited .. => ⟨rfl, rfl, rfl, fun _ => rfl, returns_movementFields, by decide, by decide⟩
  | orderPlaced .. => ⟨rfl, rfl, rfl, fun _ => rfl, returns_orderFields, by decide, by decide⟩
  | checkpointRecorded .. =>
    ⟨rfl, rfl, rfl, fun _ => rfl, returns_checkpointFields, by decide, by decide⟩
  | withdrawn .. => ⟨rfl, rfl, rfl, fun _ => rfl, returns_payoutFields, by decide, by decide⟩
  | ownershipTransferred .. =>
    ⟨rfl, rfl, rfl, fun _ => rfl, returns_successionFields, by decide, by decide⟩

lemma returns_formatWithin (depth : Nat) : (formatWithin depth).Returns := by
  intro kind rest _
  have hread := tagged.reads_writeAs (nestingLimit - depth - 1) kind.shape.known
    kind.shape.names_nodup kind.shape.key_free kind.shape.returns kind.shape.parts rest
  rw [kind.shape.made, ← kind.shape.written] at hread
  exact hread

lemma exists_variant (kind : EventKind) :
    ∃ variant tail, tagged.variant (.text kind.tag) = .ok variant ∧
      kind.write = '{' :: Literal.write "type".toList ++
        ':' :: (Literal.write kind.tag.toList ++ tail) ∧
      ∀ ms made, variant.ofMembers ms = .ok made → made.tag = kind.tag := by
  obtain ⟨hknown, hwritten, -, htag, -, -, -⟩ := kind.shape
  rw [Tagged.writeAs_eq] at hwritten
  refine ⟨_, _, hknown, hwritten, fun ms made hmade => ?_⟩
  obtain ⟨v, rfl⟩ := Variant.exists_of_ofMembers hmade
  exact htag v

end EventKind

theorem written_forms_round_trip :
    Account.form.format.RoundTrips ∧ OrderId.form.format.RoundTrips ∧
      CheckpointId.form.format.RoundTrips ∧ Root.form.format.RoundTrips ∧
      Checkpoint.format.RoundTrips ∧ Deposit.format.RoundTrips ∧
      OrderRequest.format.RoundTrips ∧ Order.format.RoundTrips ∧
      Instruction.format.RoundTrips ∧ EventKind.format.RoundTrips ∧
      (∀ kind : EventKind, ∃ variant tail,
        EventKind.tagged.variant (.text kind.tag) = .ok variant ∧
        kind.write = '{' :: Literal.write "type".toList ++
          ':' :: (Literal.write kind.tag.toList ++ tail) ∧
        ∀ ms made, variant.ofMembers ms = .ok made → made.tag = kind.tag) ∧
      Function.Injective EventKind.format.encode :=
  ⟨Account.returns_form.format.roundTrips, OrderId.returns_form.format.roundTrips,
    CheckpointId.returns_form.format.roundTrips, Root.returns_form.format.roundTrips,
    Checkpoint.returns_format.roundTrips, Deposit.returns_format.roundTrips,
    OrderRequest.returns_format.roundTrips, Order.returns_format.roundTrips,
    Instruction.returns_format.roundTrips, (EventKind.returns_formatWithin 0).roundTrips,
    EventKind.exists_variant, (EventKind.returns_formatWithin 0).roundTrips.injective⟩

end Depository
