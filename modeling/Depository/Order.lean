import Depository.Account
import Depository.Json.Record

namespace Depository

structure OrderId where
  value : UInt64
  deriving DecidableEq, Repr

instance : Ord OrderId where
  compare a b := compare a.value b.value

def OrderId.label (id : OrderId) : String := s!"order:{id.value}"

def OrderId.form : Json.Scalar OrderId := Json.u64.imap mk value

structure OrderRequest where
  owner : Account
  price : UInt64
  amount : UInt64
  value : UInt64
  deriving DecidableEq, Repr

structure Order where
  id : OrderId
  owner : Account
  price : UInt64
  amount : UInt64
  value : UInt64
  deriving DecidableEq, Repr

def OrderRequest.toOrder (r : OrderRequest) (id : OrderId) : Order :=
  ⟨id, r.owner, r.price, r.amount, r.value⟩

def OrderRequest.format : Json.Format OrderRequest := Json.Record.format
  { name := "struct NewOrder"
    fields := .field "owner" Account.form.format none <| .field "price" Json.u64.format none <|
      .field "amount" Json.u64.format none <| .field "value" Json.u64.format none .done
    make := fun (owner, price, amount, value, _) => ⟨owner, price, amount, value⟩
    parts := fun r => (r.owner, r.price, r.amount, r.value, ()) }

def Order.format : Json.Format Order := Json.Record.format
  { name := "struct Order"
    fields := .field "id" OrderId.form.format none <| .field "owner" Account.form.format none <|
      .field "price" Json.u64.format none <| .field "amount" Json.u64.format none <|
      .field "value" Json.u64.format none .done
    make := fun (id, owner, price, amount, value, _) => ⟨id, owner, price, amount, value⟩
    parts := fun o => (o.id, o.owner, o.price, o.amount, o.value, ()) }

end Depository
