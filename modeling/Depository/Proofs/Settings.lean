import Depository.Proofs.Ledger.History
import Depository.Proofs.WrittenForms
import Mathlib.Data.List.DropRight

namespace Depository

open Json

namespace Text

def trim (s : String) : List Char :=
  (s.toList.dropWhile whiteSpace.contains).rdropWhile whiteSpace.contains

lemma isBlank_iff (s : String) : isBlank s = true ↔ trim s = [] := by
  rw [isBlank, trim, List.all_eq_true, List.rdropWhile_eq_nil_iff]
  constructor
  · intro h c hc
    exact h c ((List.dropWhile_suffix _).subset hc)
  · intro h
    rw [← List.dropWhile_eq_nil_iff]
    by_contra hne
    have hhead := List.head_dropWhile_not whiteSpace.contains hne
    simp [h _ (List.head_mem hne)] at hhead

end Text

lemma Logging.returns_format : Logging.format.Returns :=
  Record.returns (by decide)
    ⟨Scalar.returns_text.format, Scalar.returns_bool.format, trivial⟩ fun _ => rfl

namespace Settings

def objections (s : Settings) : List (Bool × String) :=
  [(s.owner.name = "", "owner must not be empty"),
    (s.maxRootBytes = 0, "max_root_bytes must be > 0"),
    (Text.trim s.logging.filter = [], "logging.filter must not be empty")]

def admitted (s : Settings) : Except Failure Settings :=
  match s.objections.lookup true with
  | none => .ok s
  | some reason => .error (.configuration reason)

def encodeWithout (omitted : List String) (s : Settings) : String :=
  String.ofList (record.writeGiven (fun name => name ∉ omitted) s)

def withDefaults (omitted : List String) (s : Settings) : Settings :=
  let default : Settings := { owner := s.owner }
  { owner := s.owner
    maxRootBytes := if "max_root_bytes" ∈ omitted then default.maxRootBytes else s.maxRootBytes
    eventLog := if "event_log" ∈ omitted then default.eventLog else s.eventLog
    logging := if "logging" ∈ omitted then default.logging else s.logging }

lemma validate_eq (s : Settings) : s.validate = s.admitted.map fun _ => () := by
  by_cases howner : s.owner.name = "" <;> by_cases hroot : s.maxRootBytes = 0 <;>
    by_cases hfilter : Text.trim s.logging.filter = [] <;>
    simp [validate, admitted, objections, Account.isEmpty, Text.isBlank_iff, howner, hroot, hfilter,
      Except.map, List.lookup_cons]

lemma eq_of_admitted {s s' : Settings} (h : s.admitted = .ok s') : s' = s := by
  rw [admitted] at h
  split at h
  · exact (Except.ok.inj h).symm
  · cases h

lemma ofJson_eq (text : String) : ofJson text = match format.decode text with
    | .ok s => s.admitted
    | .error fault => .error (.configuration fault.message) := by
  rw [ofJson]
  cases format.decode text with
  | error fault => rfl
  | ok s =>
    simp only [validate_eq]
    cases hs : s.admitted with
    | error f => rfl
    | ok s' =>
      rw [eq_of_admitted hs]
      rfl

lemma filled_eq (omitted : List String) (s : Settings) :
    record.make (record.fields.filled (fun name => name ∉ omitted) (record.parts s)) =
      s.withDefaults omitted := by
  simp [record, Fields.filled, withDefaults]

lemma decode_encodeWithout {omitted : List String} (h : "owner" ∉ omitted) (s : Settings) :
    format.decode (s.encodeWithout omitted) = .ok (s.withDefaults omitted) := by
  have hgiven : record.fields.Spares fun name => name ∉ omitted :=
    ⟨.inl (decide_eq_true h), .inr rfl, .inr rfl, .inr rfl, trivial⟩
  have hfields : record.fields.All Format.Returns :=
    ⟨Account.returns_form.format, (Scalar.returns_natural "usize").format,
      Scalar.returns_bool.format, Logging.returns_format, trivial⟩
  have hread := Record.reads_given (by decide) hfields hgiven s []
  rw [filled_eq, List.append_nil] at hread
  exact Format.decode_of_reads hread

lemma encodeWithout_nil (s : Settings) : s.encodeWithout [] = format.encode s := by
  have hall : (fun name : String => decide (name ∉ ([] : List String))) = fun _ => true := by
    funext name
    simp
  rw [encodeWithout, hall, Record.writeGiven_all]
  rfl

lemma withDefaults_nil (s : Settings) : s.withDefaults [] = s := by
  simp [withDefaults]

lemma ofJson_encodeWithout {omitted : List String} (h : "owner" ∉ omitted) (s : Settings) :
    ofJson (s.encodeWithout omitted) = (s.withDefaults omitted).admitted := by
  rw [ofJson_eq, decode_encodeWithout h]

lemma ofJson_encode (s : Settings) : ofJson (format.encode s) = s.admitted := by
  have h := ofJson_encodeWithout List.not_mem_nil s
  rwa [encodeWithout_nil, withDefaults_nil] at h

lemma validate_of_ofJson {text : String} {s : Settings} (h : ofJson text = .ok s) :
    s.validate = .ok () := by
  rw [ofJson_eq] at h
  cases hd : format.decode text with
  | error fault => simp [hd] at h
  | ok s' =>
    simp only [hd] at h
    obtain rfl := eq_of_admitted h
    rw [validate_eq, h]
    rfl

lemma configuration_of_ofJson {text : String} {f : Failure} (h : ofJson text = .error f) :
    ∃ reason, f = .configuration reason := by
  rw [ofJson_eq] at h
  cases hd : format.decode text with
  | error fault =>
    simp only [hd] at h
    exact ⟨_, (Except.error.inj h).symm⟩
  | ok s =>
    simp only [hd, admitted] at h
    split at h
    · cases h
    · exact ⟨_, (Except.error.inj h).symm⟩

end Settings

namespace Ledger

variable {γ : Type}

structure Opened (l : Ledger γ) (owner : Account) : Prop where
  owner : l.owner = owner
  deposits : l.books.deposits.rows = [] ∧ l.books.deposits.nextSeq = 0
  balances : ∀ account, l.balanceOf account = 0
  orders : l.orders = [] ∧ l.nextOrderId = ⟨0⟩
  checkpoints : l.checkpoints = [] ∧ l.nextCheckpointId = ⟨0⟩
  roots : ∀ root, l.findCheckpoint root = none
  events : l.events = [] ∧ l.books.events.nextSeq = 0

lemma opened_create {s : Settings} (h : s.validate = .ok ()) (payer : γ) : ∃ l log,
    create s payer = .ok (l, log) ∧ l.settings = s ∧ l.Opened s.owner := by
  refine ⟨_, _, create_eq_ok_iff.mpr ⟨h, rfl, rfl⟩, rfl, ?_⟩
  exact ⟨rfl, ⟨rfl, rfl⟩, fun _ => rfl, ⟨rfl, rfl⟩, ⟨rfl, rfl⟩, fun _ => rfl, ⟨rfl, rfl⟩⟩

end Ledger

namespace Settings

/-- Settings are loaded from the text that is written for them if there is nothing against them,
and refused for the first thing that there is. What is left out of that text takes its default. And
a ledger opens with whatever settings any text gives, or else that text is refused as settings. -/
theorem ofJson_admits :
    (∀ s : Settings, s.validate = s.admitted.map (fun _ => ()) ∧
      ofJson (format.encode s) = s.admitted) ∧
    (∀ s : Settings, s.encodeWithout [] = format.encode s ∧
      ∀ omitted : List String, omitted ⊆ ["max_root_bytes", "event_log", "logging"] →
        ofJson (s.encodeWithout omitted) = ofJson (format.encode (s.withDefaults omitted))) ∧
    (∀ text s, ofJson text = .ok s → s.validate = .ok () ∧
      ∀ (γ : Type) (payer : γ), ∃ l log,
        Ledger.create s payer = .ok (l, log) ∧ l.settings = s ∧ l.Opened s.owner) ∧
    ∀ text f, ofJson text = .error f → ∃ reason, f = .configuration reason := by
  refine ⟨fun s => ⟨s.validate_eq, ofJson_encode s⟩, fun s => ⟨s.encodeWithout_nil,
    fun omitted h => ?_⟩, fun text s h => ?_, fun _ _ => configuration_of_ofJson⟩
  · have howner : "owner" ∉ omitted := fun howner => absurd (h howner) (by decide)
    rw [ofJson_encode, ofJson_encodeWithout howner]
  · have hvalid := validate_of_ofJson h
    exact ⟨hvalid, fun γ payer => Ledger.opened_create hvalid payer⟩

theorem ofJson_admits_minimal :
    let text := "\x7b\"owner\":\"exchange\"\x7d"
    ofJson text = .ok { owner := ⟨"exchange"⟩ } ∧
      (∃ l log, Ledger.create { owner := ⟨"exchange"⟩ } () = .ok (l, log) ∧
        l.Opened ⟨"exchange"⟩) ∧
      ofJson "\x7b\"owner\":\"\"\x7d" = .error (.configuration "owner must not be empty") := by
  intro text
  obtain ⟨hwritten, hleft, hopens, -⟩ := ofJson_admits
  have hminimal : ∀ name, ofJson (encodeWithout ["max_root_bytes", "event_log", "logging"]
      { owner := ⟨name⟩, maxRootBytes := 0 }) = admitted { owner := ⟨name⟩ } := by
    intro name
    rw [(hleft _).2 _ (List.Subset.refl _), (hwritten _).2]
    rfl
  have hloaded : ofJson text = .ok { owner := ⟨"exchange"⟩ } := by
    refine Eq.trans (congrArg ofJson ?_) ((hminimal "exchange").trans ?_)
    · decide +kernel
    · decide +kernel
  obtain ⟨l, log, hcreate, -, hopened⟩ := (hopens text _ hloaded).2 Unit ()
  refine ⟨hloaded, ⟨l, log, hcreate, hopened⟩, ?_⟩
  refine Eq.trans (congrArg ofJson ?_) ((hminimal "").trans ?_)
  · decide +kernel
  · decide +kernel

end Settings

end Depository
