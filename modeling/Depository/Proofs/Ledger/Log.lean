import Depository.Proofs.Capabilities
import Depository.Proofs.Tally

namespace Depository

open Store

namespace LogRecord

namespace Line

def applied (table : String) (rows : Nat) (next : UInt64) : Line :=
  ⟨.trace, "Staged writes applied",
    [("table", .text table), ("rows", .number rows), ("next_seq", .number next.toNat)]⟩

def committed (tx : TxId) (operation : Operation) (caller : Account) (rows : Nat) : Line :=
  ⟨.info, "Committed",
    [("tx", .text tx.label), ("op", .text operation.label), ("caller", .text caller.name),
      ("rows", .number rows)]⟩

def rolledBack (tx : TxId) (operation : Operation) (caller : Account) (f : Failure) : Line :=
  ⟨.debug, "Rolled back",
    [("tx", .text tx.label), ("op", .text operation.label), ("caller", .text caller.name),
      ("kind", .text f.category.label), ("error", .text f.message)]⟩

/-- The line tells of a step on the way, and not of how the request has ended. -/
def Interim (x : Line) : Prop :=
  x.level ≠ .trace ∧ x.message ≠ "Committed" ∧ x.message ≠ "Rolled back"

end Line

lemma interim_of_isNotice {r : LogRecord} (h : r.isNotice = true) :
    r.line.Interim ∧ r.level ≠ .warn := by
  cases r with
  | creditStaged | debitStaged | orderStaged | duplicateRoot | withdrawalStaged =>
    simp [line, Line.Interim, level, message]
  | _ => cases h

lemma interim_of_warn {r : LogRecord} (h : r.level = .warn) : r.line.Interim := by
  cases r with
  | denied | transferRejected => simp [line, Line.Interim, level, message]
  | _ => cases h

end LogRecord

def Abort.rejections (tx : TxId) : Abort → List LogRecord
  | .failed (.transferRejected receiver amount reason) =>
    [.transferRejected tx receiver amount reason]
  | _ => []

lemma Abort.rejections_eq_nil {f : Failure} (h : f.category ≠ .externalCollaborator) (tx : TxId) :
    (failed f).rejections tx = [] := by
  cases f with
  | transferRejected => exact absurd rfl h
  | _ => rfl

namespace Staging

variable {γ α β : Type}

def rejections (tx : TxId) : Except Abort α → List LogRecord
  | .ok _ => []
  | .error e => e.rejections tx

def Tells (m : Staging γ α) : Prop :=
  ∀ s, ∃ records, (m.runIn s).2.log = s.log ++ records ∧ (∀ r ∈ records, r.line.Interim) ∧
    records.filter (fun r => r.level = .warn) =
      rejections (m.runIn s).2.tx.stamp.tx (m.runIn s).1

section Tells

lemma tells_of_silent {m : Staging γ α} (hlog : ∀ s, (m.runIn s).2.log = s.log)
    (hr : ∀ s tx, rejections tx (m.runIn s).1 = []) : Tells m :=
  fun s => ⟨[], by rw [hlog, List.append_nil], by simp, (hr s _).symm⟩

lemma Tells.bind {m : Staging γ α} {f : α → Staging γ β} (hm : Tells m) (hf : ∀ a, Tells (f a)) :
    Tells (m >>= f) := by
  intro s
  have hms := hm s
  refine runIn_bind_elim (P := fun x => ∃ records, x.2.log = s.log ++ records ∧
    (∀ r ∈ records, r.line.Interim) ∧
      records.filter (fun r => r.level = .warn) = rejections x.2.tx.stamp.tx x.1)
    s (fun e s' hrun => ?_) fun a s' hrun => ?_
  · rw [hrun] at hms
    exact hms
  · rw [hrun] at hms
    obtain ⟨before, hlog, hinterim, hwarn⟩ := hms
    obtain ⟨after, hlog', hinterim', hwarn'⟩ := hf a s'
    refine ⟨before ++ after, ?_, ?_, ?_⟩
    · rw [hlog', hlog, List.append_assoc]
    · exact List.forall_mem_append.mpr ⟨hinterim, hinterim'⟩
    · rw [List.filter_append, hwarn, hwarn']
      rfl

lemma tells_fail {f : Failure} (h : f.category ≠ .externalCollaborator) :
    Tells (fail f : Staging γ α) :=
  tells_of_silent (fun _ => rfl) fun _ => Abort.rejections_eq_nil h

lemma tells_elementary : Elementary (γ := γ) Tells where
  pure _ := tells_of_silent (fun _ => rfl) fun _ _ => rfl
  bind := Tells.bind
  tx := tells_of_silent (fun _ => rfl) fun _ _ => rfl
  setTx _ := tells_of_silent (fun _ => rfl) fun _ _ => rfl
  log r hr s := by
    obtain ⟨hinterim, hwarn⟩ := LogRecord.interim_of_isNotice (hr s.tx.stamp.tx)
    exact ⟨[r s.tx.stamp.tx], rfl, by simpa using hinterim, by simp [hwarn, rejections]⟩
  fail f hf := tells_fail fun hc => by
    rw [hc] at hf
    cases hf

lemma tells_ensure (c : Capability) (operation : Operation) (required : Account) :
    Tells (check (c.ensure operation required) : Staging γ Unit) := by
  cases h : c.ensure operation required with
  | ok => exact tells_elementary.pure ()
  | error f => exact tells_fail (Capability.category_of_ensure h)

lemma tells_payout [Payer γ] (receiver : Account) (amount balance : UInt64) :
    Tells (pay ⟨receiver, amount⟩ >>= heed receiver amount balance : Staging γ Unit) := by
  intro s
  rw [runIn_bind, runIn_pay]
  dsimp only
  cases (Payer.pay s.payer ⟨receiver, amount⟩).1 with
  | accepted =>
    exact ⟨[.withdrawalStaged s.tx.stamp.tx receiver amount balance], rfl,
      List.forall_mem_singleton.mpr (LogRecord.interim_of_isNotice rfl).1, rfl⟩
  | rejected reason =>
    exact ⟨[.transferRejected s.tx.stamp.tx receiver amount reason], rfl,
      List.forall_mem_singleton.mpr (LogRecord.interim_of_warn rfl), rfl⟩
  | panicked => exact ⟨[], (List.append_nil _).symm, by simp, rfl⟩

lemma tells_stage [Payer γ] (maxRootBytes : UInt64) (c : Capability) (r : Request) :
    Tells (r.stage maxRootBytes c : Staging γ Reply) :=
  tells_elementary.stage tells_ensure tells_payout maxRootBytes c r

end Tells

end Staging

namespace Books

lemma isOrdinary_of_judge {b : Books} {maxRootBytes : UInt64} {r : Request} {f : Failure}
    (h : b.judge maxRootBytes r = .error f) : f.category.isOrdinary = true := by
  have hroot : ∀ root, b.judgeRoot maxRootBytes root = .error f → f.category.isOrdinary = true := by
    intro root h
    rw [judgeRoot] at h
    split_ifs at h <;> cases h <;> rfl
  cases r with
  | recordRoot root => exact hroot root h
  | recordHex text =>
    cases hx : Root.ofHex text with
    | ok root => exact hroot root (by simpa [judge, hx] using h)
    | error f' =>
      obtain ⟨reason, rfl⟩ := Root.malformed_of_ofHex hx
      rw [judge, hx] at h
      cases h
      rfl
  | deposit | debit | placeOrder | withdraw | transferOwnership =>
    rw [judge] at h
    split_ifs at h <;> cases h <;> rfl

lemma isOrdinary_of_ruling {b : Books} {settings : Settings} {caller : Account} {r : Request}
    {f : Failure} (hc : caller = r.principal b.owner) (h : b.ruling settings caller r = .error f) :
    f.category.isOrdinary = true := by
  rw [ruling, if_neg (not_not_intro hc)] at h
  cases hj : b.judge settings.maxRootBytes r with
  | error f' =>
    rw [hj] at h
    cases h
    exact isOrdinary_of_judge hj
  | ok kind =>
    rw [hj, withRoom] at h
    split_ifs at h
    cases h
    rfl

end Books

def warnings (tx : TxId) : Except Abort Reply → List LogRecord
  | .error (.failed (.unauthorized operation caller required)) =>
    [.denied operation caller required]
  | .error (.failed (.transferRejected receiver amount reason)) =>
    [.transferRejected tx receiver amount reason]
  | _ => []

section Warnings

variable {tx : TxId} {x : Except Abort Reply}

lemma warnings_eq_rejections (h : ∀ operation caller required,
      x ≠ .error (.failed (.unauthorized operation caller required))) :
    warnings tx x = Staging.rejections tx x := by
  rcases x with (f | _) | reply
  · cases f with
    | unauthorized operation caller required => exact absurd rfl (h operation caller required)
    | _ => rfl
  · rfl
  · rfl

lemma length_warnings_le : (warnings tx x).length ≤ 1 := by
  unfold warnings
  split <;> simp

lemma denied_mem_warnings_iff :
    (∃ r ∈ warnings tx x, r.message = "Authorization denied") ↔
      ∃ operation caller required,
        x = .error (.failed (.unauthorized operation caller required)) := by
  unfold warnings
  split <;> simp_all [LogRecord.message]

lemma rejected_mem_warnings_iff :
    (∃ r ∈ warnings tx x, r.message = "Outbound transfer rejected") ↔
      ∃ receiver amount reason,
        x = .error (.failed (.transferRejected receiver amount reason)) := by
  unfold warnings
  split <;> simp_all [LogRecord.message]

end Warnings

namespace Ledger

variable {γ : Type} [Payer γ]

def attempted (l : Ledger γ) (stamp : Stamp) (caller : Account) (r : Request) :
    Except Abort Reply × Session γ :=
  (r.attempt l.settings.maxRootBytes caller).runIn (l.session stamp)

def staged (l : Ledger γ) (stamp : Stamp) (caller : Account) (r : Request) : Tally :=
  (l.attempted stamp caller r).2.tx.tally

def lines (l : Ledger γ) (stamp : Stamp) (caller : Account) (r : Request) : List LogRecord.Line :=
  (l.perform stamp caller r).log.map LogRecord.line

def commitLines (books : Books) (tx : TxId) (operation : Operation) (caller : Account) (n : Tally) :
    List LogRecord.Line :=
  [.applied "deposit" n.deposits books.deposits.nextSeq,
    .applied "order" n.orders books.orders.nextSeq,
    .applied "checkpoint" n.checkpoints books.checkpoints.nextSeq,
    .applied "event" n.events books.events.nextSeq,
    .committed tx operation caller n.total]

/-- The log of a request tells the steps on its way, and then how it has ended unless it was cut
off by a panic. It warns of a lack of authority and of a rejected payout, and of nothing else. -/
structure Reports (l : Ledger γ) (stamp : Stamp) (caller : Account) (r : Request) : Prop where
  answered : ∀ reply, (l.perform stamp caller r).outcome = .ok reply →
    l.staged stamp caller r = r.tally l.books l.settings.eventLog ∧
    ∃ steps, (∀ x ∈ steps, x.Interim) ∧ l.lines stamp caller r = steps ++
      commitLines (l.perform stamp caller r).ledger.books stamp.tx r.operation caller
        (l.staged stamp caller r)
  failed : ∀ f, (l.perform stamp caller r).outcome = .error (.failed f) →
    ∃ steps, (∀ x ∈ steps, x.Interim) ∧
      l.lines stamp caller r = steps ++ [.rolledBack stamp.tx r.operation caller f]
  panicked : (l.perform stamp caller r).outcome = .error .panicked →
    ∀ x ∈ l.lines stamp caller r, x.Interim
  warned : (l.lines stamp caller r).filter (fun x => x.level = .warn) =
    (warnings stamp.tx (l.perform stamp caller r).outcome).map LogRecord.line
  denied_iff : (∃ x ∈ l.lines stamp caller r,
      x.level = .warn ∧ x.message = "Authorization denied") ↔
    ∃ operation caller' required, (l.perform stamp caller r).outcome =
      .error (.failed (.unauthorized operation caller' required))
  rejected_iff : (∃ x ∈ l.lines stamp caller r,
      x.level = .warn ∧ x.message = "Outbound transfer rejected") ↔
    ∃ receiver amount reason, (l.perform stamp caller r).outcome =
      .error (.failed (.transferRejected receiver amount reason))
  once : ((l.lines stamp caller r).filter fun x => x.level = .warn).length ≤ 1

def ending (stamp : Stamp) (caller : Account) (r : Request) (t : Transaction) :
    Except Abort Reply → List LogRecord
  | .ok _ => t.changes.logRecords ++ [.committed stamp.tx r.operation caller t.changes.rowsWritten]
  | .error (.failed f) => [.rolledBack stamp.tx r.operation caller f]
  | .error .panicked => []

variable {l : Ledger γ}

lemma perform_eq_attempted (l : Ledger γ) (stamp : Stamp) (caller : Account) (r : Request) :
    (l.perform stamp caller r).outcome = (l.attempted stamp caller r).1 ∧
      (l.perform stamp caller r).log = (l.attempted stamp caller r).2.log ++
        ending stamp caller r (l.attempted stamp caller r).2.tx (l.perform stamp caller r).outcome ∧
      ∀ reply, (l.perform stamp caller r).outcome = .ok reply →
        (l.perform stamp caller r).ledger.books =
          l.books.apply (l.attempted stamp caller r).2.tx.changes := by
  have hrun : (r.attempt l.settings.maxRootBytes caller).run (l.session stamp) =
      l.attempted stamp caller r := rfl
  rw [perform, hrun]
  rcases l.attempted stamp caller r with ⟨(f | _) | reply, s⟩
  · exact ⟨rfl, rfl, by simp⟩
  · exact ⟨rfl, (List.append_nil _).symm, by simp⟩
  · exact ⟨rfl, List.append_assoc .., fun _ _ => rfl⟩

lemma lines_eq (l : Ledger γ) (stamp : Stamp) (caller : Account) (r : Request) :
    l.lines stamp caller r = (l.attempted stamp caller r).2.log.map LogRecord.line ++
      (ending stamp caller r (l.attempted stamp caller r).2.tx (l.perform stamp caller r).outcome).map
        LogRecord.line := by
  obtain ⟨-, hlog, -⟩ := perform_eq_attempted l stamp caller r
  rw [lines, hlog, List.map_append]

lemma staged_of_answered {stamp : Stamp} {caller : Account} {r : Request} {reply : Reply}
    (ho : (l.perform stamp caller r).outcome = .ok reply) :
    l.staged stamp caller r = r.tally l.books l.settings.eventLog := by
  have hrun : (r.attempt l.settings.maxRootBytes caller).runIn (l.session stamp) =
      (.ok reply, (l.attempted stamp caller r).2) :=
    Prod.ext ((perform_eq_attempted l stamp caller r).1.symm.trans ho) rfl
  exact (Staging.yields_attempt _ caller r _ _ reply rfl hrun).tally

section Told

variable (h : l.books.Sound) (stamp : Stamp) (caller : Account) (r : Request)

include h

variable {caller r} in
lemma outcome_ne_unauthorized (hc : caller = r.principal l.books.owner) (operation : Operation)
    (caller' required : Account) : (l.perform stamp caller r).outcome ≠
      .error (.failed (.unauthorized operation caller' required)) := by
  intro ho
  rcases failed_cases h ho with hr | hf
  · cases Books.isOrdinary_of_ruling hc hr
  · cases hf

lemma attempted_told :
    (∀ x ∈ (l.attempted stamp caller r).2.log.map LogRecord.line, x.Interim) ∧
      (l.attempted stamp caller r).2.log.filter (fun x => x.level = .warn) =
        warnings stamp.tx (l.perform stamp caller r).outcome := by
  have hstamp : (l.attempted stamp caller r).2.tx.stamp = stamp :=
    (Staging.upholds_stamp stamp).attempt (fun _ _ hs => hs) l.settings.maxRootBytes caller r
      (l.session stamp) rfl
  rw [List.forall_mem_map]
  -- Consent is looked at first, and past it nothing fails for want of authority.
  by_cases hc : caller = r.principal l.books.owner
  · rw [warnings_eq_rejections (outcome_ne_unauthorized h stamp hc),
      (perform_eq_attempted l stamp caller r).1]
    rw [attempted, runIn_attempt_consented stamp hc] at hstamp ⊢
    obtain ⟨records, hlog, hinterim, hwarn⟩ :=
      Staging.tells_stage l.settings.maxRootBytes _ r (l.session stamp)
    rw [hlog]
    exact ⟨hinterim, hwarn.trans (by rw [hstamp])⟩
  · rw [(perform_eq_attempted l stamp caller r).1, attempted, runIn_attempt_denied stamp hc]
    exact ⟨List.forall_mem_singleton.mpr (LogRecord.interim_of_warn rfl), rfl⟩

lemma warned : (l.lines stamp caller r).filter (fun x => x.level = .warn) =
    (warnings stamp.tx (l.perform stamp caller r).outcome).map LogRecord.line := by
  have hending : ∀ t x, (ending stamp caller r t x).filter (fun x => x.level = .warn) = [] := by
    rintro t ((f | _) | reply) <;> rfl
  have hlog : (l.perform stamp caller r).log.filter (fun x => x.level = .warn) =
      warnings stamp.tx (l.perform stamp caller r).outcome := by
    rw [(perform_eq_attempted l stamp caller r).2.1, List.filter_append, hending,
      List.append_nil, (attempted_told h stamp caller r).2]
  exact List.filter_map.trans (congrArg (List.map LogRecord.line) hlog)

lemma exists_warning_iff (message : String) :
    (∃ x ∈ l.lines stamp caller r, x.level = .warn ∧ x.message = message) ↔
      ∃ x ∈ warnings stamp.tx (l.perform stamp caller r).outcome, x.message = message := by
  have hmem : ∀ x, x ∈ l.lines stamp caller r ∧ x.level = .warn ↔
      x ∈ (warnings stamp.tx (l.perform stamp caller r).outcome).map LogRecord.line := by
    intro x
    rw [← warned h, List.mem_filter, decide_eq_true_iff]
  constructor
  · rintro ⟨x, hx, hwarn, hmessage⟩
    obtain ⟨w, hw, rfl⟩ := List.mem_map.mp ((hmem x).mp ⟨hx, hwarn⟩)
    exact ⟨w, hw, hmessage⟩
  · rintro ⟨w, hw, hmessage⟩
    obtain ⟨hx, hwarn⟩ := (hmem w.line).mpr (List.mem_map_of_mem hw)
    exact ⟨w.line, hx, hwarn, hmessage⟩

lemma reports : l.Reports stamp caller r where
  answered reply ho := by
    refine ⟨staged_of_answered ho, _, (attempted_told h stamp caller r).1, ?_⟩
    obtain ⟨-, -, hbooks⟩ := perform_eq_attempted l stamp caller r
    rw [lines_eq, hbooks reply ho, ho]
    rfl
  failed f ho := by
    refine ⟨_, (attempted_told h stamp caller r).1, ?_⟩
    rw [lines_eq, ho]
    rfl
  panicked ho := by
    rw [lines_eq, ho, ending, List.map_nil, List.append_nil]
    exact (attempted_told h stamp caller r).1
  warned := warned h stamp caller r
  denied_iff := (exists_warning_iff h stamp caller r _).trans denied_mem_warnings_iff
  rejected_iff := (exists_warning_iff h stamp caller r _).trans rejected_mem_warnings_iff
  once := by
    rw [warned h, List.length_map]
    exact length_warnings_le

end Told

/-- Whatever has happened to a ledger, the log of a request says how it has ended, and does not
say so of a request that has not. -/
theorem log_truthful {settings : Settings} {payer : γ} {log : List LogRecord}
    (hl : create settings payer = .ok (l, log)) (steps : List (Step γ)) (stamp : Stamp)
    (caller : Account) (r : Request) : (l.run steps).Reports stamp caller r :=
  reports ((sound_of_create hl).run steps) stamp caller r

theorem log_truthful_unknown_debited :
    let steps : List (Step RecordingPayer) :=
      [.call (.ofSeconds 0) ⟨"keeper"⟩ (.deposit ⟨"keeper"⟩ 5), .tune (·.breakNext),
        .call (.ofSeconds 1) ⟨"keeper"⟩ (.withdraw ⟨"ann"⟩ 3)]
    let r := Request.debit ⟨"ann"⟩ 0
    ∃ l log, create { owner := ⟨"keeper"⟩ } ({} : RecordingPayer) = .ok (l, log) ∧
      (l.run steps).Reports (.ofSeconds 3) ⟨"keeper"⟩ r ∧
      ((l.run steps).perform (.ofSeconds 3) ⟨"keeper"⟩ r).outcome = .ok (.balance 0) ∧
      (l.run steps).staged (.ofSeconds 3) ⟨"keeper"⟩ r = { events := 1 } := by
  intro steps r
  have hl : create { owner := ⟨"keeper"⟩ } ({} : RecordingPayer) = .ok
      (⟨{ owner := ⟨"keeper"⟩ }, { owner := ⟨"keeper"⟩ }, {}⟩, _) :=
    create_eq_ok_iff.mpr ⟨by decide, rfl, rfl⟩
  have hreports := log_truthful hl steps (.ofSeconds 3) ⟨"keeper"⟩ r
  have ho : (((⟨{ owner := ⟨"keeper"⟩ }, { owner := ⟨"keeper"⟩ }, {}⟩ : Ledger RecordingPayer).run
      steps).perform (.ofSeconds 3) ⟨"keeper"⟩ r).outcome = .ok (.balance 0) := by decide
  exact ⟨_, _, hl, hreports, ho, (hreports.answered _ ho).1.trans (by decide)⟩

end Ledger

end Depository
