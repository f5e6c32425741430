import Depository.Failure
import Depository.Hex
import Depository.Store.Table

namespace Depository.Store

variable {ρ κ : Type}

structure Overlay (s : Schema ρ κ) where
  base : Table s
  writes : List ρ
  claims : Entries κ
  nextSeq : UInt64

def preview (bytes : List UInt8) : String :=
  if 32 < bytes.length then Hex.toText (bytes.take 32) ++ "..." else Hex.toText bytes

namespace Overlay

variable {s : Schema ρ κ}

def begin (t : Table s) : Overlay s :=
  ⟨t, [], {}, t.nextSeq⟩

def writeSet (o : Overlay s) : WriteSet s :=
  ⟨o.writes, o.nextSeq⟩

/-- The next number of the sequence; the last one of 64 bits is never given out. -/
def allocate (o : Overlay s) : Except Failure (UInt64 × Overlay s) :=
  if o.nextSeq.toNat + 1 < UInt64.size then .ok (o.nextSeq, { o with nextSeq := o.nextSeq + 1 })
  else .error (.idSpaceExhausted s.name)

variable [DecidableEq κ]

def get? (o : Overlay s) (k : κ) : Option ρ :=
  s.find? k o.writes <|> o.base.get? k

/-- A staged row may have left the index key that a committed entry leads to it from. -/
def findUnique? (o : Overlay s) (k : IndexKey) : Option ρ := do
  let index ← s.index
  let owner ← o.claims.find? k <|> o.base.entries.find? k
  (o.get? owner).filter fun r => index.key r = k

def rival? (o : Overlay s) (index : UniqueIndex ρ) (r : ρ) : Option ρ :=
  (o.findUnique? (index.key r)).filter fun holder => s.key holder ≠ s.key r

variable [Ord κ]

def upsert (o : Overlay s) (r : ρ) : Except Failure (Overlay s) :=
  match s.index with
  | none => .ok { o with writes := s.put r o.writes }
  | some index =>
    match o.rival? index r with
    | some _ => .error (.duplicateEntry index.name (preview (index.key r)))
    | none =>
      .ok { o with
        writes := s.put r o.writes
        claims := o.claims.insert (index.key r) (s.key r) }

def insert (o : Overlay s) (r : ρ) : Except Failure (Overlay s) :=
  match o.get? (s.key r) with
  | some _ => .error (.duplicateKey s.name (s.keyText (s.key r)))
  | none => o.upsert r

end Overlay

end Depository.Store
