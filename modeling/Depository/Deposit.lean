import Depository.Failure
import Depository.Json.Record

namespace Depository

structure Deposit where
  account : Account
  amount : UInt64
  deriving DecidableEq, Repr

namespace Deposit

def empty (account : Account) : Deposit := ⟨account, 0⟩

def credited (d : Deposit) (amount : UInt64) : Except Failure Deposit :=
  if d.amount.toNat + amount.toNat < UInt64.size then .ok ⟨d.account, d.amount + amount⟩
  else .error (.balanceOverflow d.account d.amount amount)

def debited (d : Deposit) (amount : UInt64) : Except Failure Deposit :=
  if amount ≤ d.amount then .ok ⟨d.account, d.amount - amount⟩
  else .error (.insufficientFunds d.account amount d.amount)

def format : Json.Format Deposit := Json.Record.format
  { name := "struct DepositBalance"
    fields := .field "account" Account.form.format none <|
      .field "amount" Json.u64.format none .done
    make := fun (account, amount, _) => ⟨account, amount⟩
    parts := fun d => (d.account, d.amount, ()) }

end Deposit

end Depository
