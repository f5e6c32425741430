import Depository.Failure
import Depository.Json.Record
import Depository.Text.Basic

namespace Depository

structure Logging where
  filter : String := "info"
  json : Bool := false
  deriving DecidableEq, Repr

structure Settings where
  owner : Account
  maxRootBytes : UInt64 := 128
  eventLog : Bool := true
  logging : Logging := {}
  deriving DecidableEq, Repr

def Logging.format : Json.Format Logging := Json.Record.format
  { name := "struct LoggingConfig"
    fields := .field "filter" Json.text.format none <| .field "json" Json.bool.format none .done
    make := fun (filter, json, _) => ⟨filter, json⟩
    parts := fun l => (l.filter, l.json, ()) }

namespace Settings

def record : Json.Record Settings where
  name := "struct LedgerConfig"
  fields := .field "owner" Account.form.format none <|
    .field "max_root_bytes" (Json.natural "usize").format (some 128) <|
    .field "event_log" Json.bool.format (some true) <|
    .field "logging" Logging.format (some {}) .done
  make := fun (owner, maxRootBytes, eventLog, logging, _) =>
    ⟨owner, maxRootBytes, eventLog, logging⟩
  parts s := (s.owner, s.maxRootBytes, s.eventLog, s.logging, ())

def format : Json.Format Settings := record.format

def validate (s : Settings) : Except Failure Unit :=
  if s.owner.isEmpty then .error (.configuration "owner must not be empty")
  else if s.maxRootBytes = 0 then .error (.configuration "max_root_bytes must be > 0")
  else if Text.isBlank s.logging.filter then
    .error (.configuration "logging.filter must not be empty")
  else .ok ()

def ofJson (text : String) : Except Failure Settings := do
  match format.decode text with
  | .ok s =>
    s.validate
    return s
  | .error fault => throw (.configuration fault.message)

def ofFile (path : String) (contents : Option (List UInt8)) : Except Failure Settings :=
  let unreadable (reason : String) := .error (.configuration s!"cannot read {path}: {reason}")
  match contents with
  | none => unreadable "No such file or directory (os error 2)"
  | some bytes =>
    match Text.ofUtf8? bytes with
    | none => unreadable "stream did not contain valid UTF-8"
    | some text => ofJson text

end Settings

end Depository
