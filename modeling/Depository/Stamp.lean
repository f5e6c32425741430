import Depository.Json.Format
import Depository.Timestamp
import Depository.Uuid

namespace Depository

structure TxId where
  uuid : Uuid
  deriving DecidableEq

def TxId.label (id : TxId) : String :=
  s!"tx:{String.ofList id.uuid.text}"

def TxId.form : Json.Scalar TxId :=
  (Json.textAs "a formatted UUID string").refine
    (fun s => match Uuid.ofText s with
      | .ok u => .ok ⟨u⟩
      | .error flaw => .error (.refused s!"UUID parsing failed: {flaw.message}"))
    (fun id => String.ofList id.uuid.text)

def Timestamp.form : Json.Scalar Timestamp :=
  (Json.textAs "an RFC 3339 formatted date and time string").refine
    (fun s => match Timestamp.ofText s with
      | .ok t => .ok t
      | .error flaw => .error (.refused flaw.message))
    (fun t => String.ofList t.text)

structure Stamp where
  tx : TxId
  time : Timestamp
  deriving DecidableEq

end Depository
