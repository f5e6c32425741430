namespace Depository.Store

abbrev IndexKey := List UInt8

structure UniqueIndex (ρ : Type) where
  name : String
  key : ρ → IndexKey

structure Schema (ρ κ : Type) where
  name : String
  key : ρ → κ
  keyText : κ → String
  index : Option (UniqueIndex ρ) := none

namespace Schema

variable {ρ κ : Type}

def find? [DecidableEq κ] (s : Schema ρ κ) (k : κ) (rows : List ρ) : Option ρ :=
  rows.find? fun r => s.key r = k

def put [Ord κ] (s : Schema ρ κ) (r : ρ) : List ρ → List ρ
  | [] => [r]
  | t :: ts =>
    match compare (s.key r) (s.key t) with
    | .lt => r :: t :: ts
    | .eq => r :: ts
    | .gt => t :: put s r ts

end Schema

structure Entries (κ : Type) where
  pairs : List (IndexKey × κ) := []
  deriving DecidableEq

namespace Entries

variable {κ : Type}

def find? (es : Entries κ) (k : IndexKey) : Option κ :=
  es.pairs.lookup k

def erase (es : Entries κ) (k : IndexKey) : Entries κ :=
  ⟨es.pairs.filter (·.1 ≠ k)⟩

def insert (es : Entries κ) (k : IndexKey) (v : κ) : Entries κ :=
  ⟨(k, v) :: (es.erase k).pairs⟩

end Entries

variable {ρ κ : Type}

structure Table (s : Schema ρ κ) where
  rows : List ρ := []
  entries : Entries κ := {}
  nextSeq : UInt64 := 0

structure WriteSet (s : Schema ρ κ) where
  rows : List ρ
  nextSeq : UInt64

namespace Table

variable {s : Schema ρ κ} [DecidableEq κ]

def get? (t : Table s) (k : κ) : Option ρ :=
  s.find? k t.rows

def findUnique? (t : Table s) (k : IndexKey) : Option ρ :=
  if s.index.isSome then (t.entries.find? k).bind t.get? else none

/-- Gives up the entry of the row that the given one replaces, unless another row holds it. -/
def release (t : Table s) (index : UniqueIndex ρ) (es : Entries κ) (r : ρ) : Entries κ :=
  match t.get? (s.key r) with
  | some old => if es.find? (index.key old) = some (s.key r) then es.erase (index.key old) else es
  | none => es

def claim (s : Schema ρ κ) (index : UniqueIndex ρ) (es : Entries κ) (r : ρ) : Entries κ :=
  es.insert (index.key r) (s.key r)

/-- All entries are given up before any is claimed, so a row may take over another's index key. -/
def apply [Ord κ] (t : Table s) (w : WriteSet s) : Table s where
  rows := w.rows.foldl (fun rows r => s.put r rows) t.rows
  entries :=
    match s.index with
    | some index => w.rows.foldl (claim s index) (w.rows.foldl (t.release index) t.entries)
    | none => t.entries
  nextSeq := w.nextSeq

end Table

end Depository.Store
