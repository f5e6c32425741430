import Depository.Failure
import Depository.Hex
import Depository.Json.Record

namespace Depository

structure CheckpointId where
  value : UInt64
  deriving DecidableEq, Repr

instance : Ord CheckpointId where
  compare a b := compare a.value b.value

def CheckpointId.label (id : CheckpointId) : String := s!"checkpoint:{id.value}"

def CheckpointId.form : Json.Scalar CheckpointId := Json.u64.imap mk value

structure Root where
  bytes : List UInt8
  deriving DecidableEq, Repr

namespace Root

instance : Ord Root where
  compare a b := compare a.bytes b.bytes

def size (r : Root) : Nat := r.bytes.length

def toHex (r : Root) : String := Hex.toText r.bytes

def ofHex (s : String) : Except Failure Root :=
  match Hex.ofText s with
  | .ok bytes => .ok ⟨bytes⟩
  | .error .oddLength =>
    .error (.malformed s!"commitment hex has odd length {Text.utf8Size s.toList}")
  | .error flaw => .error (.malformed s!"commitment is not hex: {flaw.message}")

def form : Json.Scalar Root :=
  Json.text.refine
    (fun s => match Hex.ofText s with
      | .ok bytes => .ok ⟨bytes⟩
      | .error flaw => .error (.refused flaw.message))
    toHex

end Root

structure Checkpoint where
  id : CheckpointId
  root : Root
  deriving DecidableEq, Repr

def Checkpoint.format : Json.Format Checkpoint := Json.Record.format
  { name := "struct Checkpoint"
    fields := .field "id" CheckpointId.form.format none <| .field "root" Root.form.format none .done
    make := fun (id, root, _) => ⟨id, root⟩
    parts := fun c => (c.id, c.root, ()) }

end Depository
