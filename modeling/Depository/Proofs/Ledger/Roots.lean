import Depository.Proofs.Ledger.Numbering
import Depository.Proofs.Stamps
import Mathlib.Data.List.Nodup

namespace Depository

open Store

namespace Request

/-- The request submits the root, as it is or as hexadecimal text in letters of either case. -/
def Submits (root : Root) : Request → Prop
  | .recordRoot submitted => submitted = root
  | .recordHex text => text.toLower = root.toHex
  | _ => False

lemma submits_iff {r : Request} {root : Root} : r.Submits root ↔ r.root? = some root := by
  cases r with
  | recordRoot submitted => exact ⟨congrArg some, Option.some.inj⟩
  | recordHex text =>
    rw [Submits, ← Root.ofHex_eq_ok_iff, root?]
    cases Root.ofHex text <;> simp [Except.toOption]
  | deposit | debit | placeOrder | withdraw | transferOwnership =>
    exact ⟨False.elim, fun h => by cases h⟩

end Request

namespace Ledger

variable {γ : Type}

/-- No root is on record twice, and it is the answered requests that say which ones are. -/
structure RootsOnce [Payer γ] (l : Ledger γ) (maxRootBytes : UInt64) (done : List Answered) :
    Prop where
  distinct : (l.checkpoints.map Checkpoint.root).Nodup
  sizes : ∀ c ∈ l.checkpoints, 1 ≤ c.root.size ∧ c.root.size ≤ maxRootBytes.toNat
  once : done.Pairwise fun a a' => ∀ root, a.request.Submits root → ¬ a'.request.Submits root
  taken : ∀ a ∈ done, ∀ root, a.request.Submits root → ∀ (stamp : Stamp) (r : Request),
    r.Submits root → (l.perform stamp l.owner r).outcome =
      .error (.failed (.duplicateEntry "checkpoint.root" root.toHex))
  free : ∀ root, (∀ a ∈ done, ¬ a.request.Submits root) → ∀ (stamp : Stamp) (caller : Account)
    (r : Request) (index key : String), r.Submits root →
      (l.perform stamp caller r).outcome ≠ .error (.failed (.duplicateEntry index key))
  found : ∀ a ∈ done, ∀ root, a.request.Submits root → ∃ c ∈ l.checkpoints,
    l.findCheckpoint root = some c ∧ c.root = root ∧ a.reply = .checkpoint c.id
  unfound : ∀ root, (∀ a ∈ done, ¬ a.request.Submits root) → l.findCheckpoint root = none

/-- A root is treated alike in either form. Text that stands for none is refused, but only to one
who may record roots at all. -/
structure FormsAgree [Payer γ] (l : Ledger γ) : Prop where
  decoded : ∀ text root, Root.ofHex text = .ok root →
    ∀ (stamp stamp' z : Stamp) (caller : Account),
      (l.perform stamp caller (.recordHex text)).restamp z =
        (l.perform stamp' caller (.recordRoot root)).restamp z
  undecoded : ∀ text f, Root.ofHex text = .error f → (∃ reason, f = .malformed reason) ∧
    ∀ (stamp : Stamp) (caller : Account),
      (l.perform stamp caller (.recordHex text)).outcome = .error (.failed
        (if caller = l.owner then f else .unauthorized .recordCheckpoint caller l.owner)) ∧
      (l.perform stamp caller (.recordHex text)).ledger = l

end Ledger

namespace Books

variable {b : Books} {settings : Settings} {a : Answered} {kind : EventKind} {done : List Answered}

lemma Sound.nodup_roots (h : b.Sound) : (b.checkpoints.rows.map Checkpoint.root).Nodup := by
  refine List.Nodup.map_on (fun c hc c' hc' hroot => ?_) h.checkpoints.ascending.nodup
  have hfind := h.findCheckpoint_eq_some_iff.mpr ⟨hc, rfl⟩
  have hfind' := h.findCheckpoint_eq_some_iff.mpr ⟨hc', hroot.symm⟩
  exact Option.some.inj (hfind.symm.trans hfind')

structure Records (b : Books) (maxRootBytes : UInt64) (done : List Answered) : Prop where
  enters : b.Enters done
  valid : ∀ c ∈ b.checkpoints.rows, Staging.validateRoot c.root maxRootBytes = .ok ()

lemma Records.opened (owner : Account) (maxRootBytes : UInt64) :
    Records { owner := owner } maxRootBytes [] :=
  ⟨.opened owner, fun _ hc => absurd hc List.not_mem_nil⟩

lemma Answers.root?_of_checkpoint? (h : b.Answers settings a kind) {c : Checkpoint}
    (hc : kind.checkpoint? = some c) : a.request.root? = some c.root := by
  have hrecorded := h.recorded
  rw [Answered.recorded?, hc, Option.map_some] at hrecorded
  obtain ⟨root, hroot, hentry⟩ := Option.map_eq_some_iff.mp hrecorded
  exact hroot.trans (congrArg (some ∘ Prod.fst) hentry)

lemma Records.answer (hb : b.Sound) (h : b.Records settings.maxRootBytes done)
    (ha : b.Answers settings a kind) (stamp : Stamp) :
    (b.enact settings.eventLog stamp kind).Records settings.maxRootBytes (done ++ [a]) where
  enters := h.enters.answer hb ha stamp
  valid c hc := by
    rw [enact_checkpoints, hb.carryOut_checkpoints ha.warrants, List.mem_append,
      Option.mem_toList] at hc
    rcases hc with hc | hc
    · exact h.valid c hc
    · exact ha.valid (ha.root?_of_checkpoint? hc)

lemma Enters.exists_row (h : b.Enters done) (ha : a ∈ done) {root : Root}
    (hroot : a.request.root? = some root) :
    ∃ c ∈ b.checkpoints.rows, c.root = root ∧ a.reply = .checkpoint c.id := by
  have hmem : (root, a.reply) ∈ done.filterMap Answered.recorded? :=
    List.mem_filterMap.mpr ⟨a, ha, by rw [Answered.recorded?, hroot]; rfl⟩
  rw [h.recorded, List.mem_map] at hmem
  obtain ⟨c, hc, hentry⟩ := hmem
  exact ⟨c, hc, congrArg Prod.fst hentry, (congrArg Prod.snd hentry).symm⟩

lemma Enters.exists_answer (h : b.Enters done) {c : Checkpoint} (hc : c ∈ b.checkpoints.rows) :
    ∃ a ∈ done, a.request.root? = some c.root := by
  have hmem : c.entry ∈ done.filterMap Answered.recorded? := by
    rw [h.recorded]
    exact List.mem_map_of_mem hc
  obtain ⟨a, ha, hentry⟩ := List.mem_filterMap.mp hmem
  obtain ⟨root, hroot, hpair⟩ := Option.map_eq_some_iff.mp hentry
  exact ⟨a, ha, hroot.trans (congrArg (some ∘ Prod.fst) hpair)⟩

lemma Enters.nodup_submitted (hb : b.Sound) (h : b.Enters done) :
    (done.filterMap fun a => a.request.root?).Nodup := by
  have hsubmitted : (done.filterMap fun a => a.request.root?) =
      (done.filterMap Answered.recorded?).map Prod.fst := by
    rw [List.map_filterMap]
    refine List.filterMap_congr fun a _ => ?_
    rw [Answered.recorded?, Option.map_map]
    exact Option.map_id'.symm
  rw [hsubmitted, h.recorded, List.map_map]
  exact hb.nodup_roots

end Books

namespace Ledger

variable {γ : Type} [Payer γ] {l : Ledger γ}

lemma perform_taken (h : l.books.Sound) (stamp : Stamp) {r : Request} {root : Root}
    {c : Checkpoint} (hroot : r.root? = some root)
    (hv : Staging.validateRoot root l.settings.maxRootBytes = .ok ())
    (hfind : l.books.findCheckpoint root = some c) :
    (l.perform stamp l.owner r).outcome =
      .error (.failed (.duplicateEntry "checkpoint.root" root.toHex)) := by
  have howner : l.owner = r.principal l.books.owner := (Request.principal_of_root? hroot _).symm
  have hrun := runIn_attempt_taken h stamp howner hroot hv hfind
  have hperform := perform_eq_conclude (l := l) stamp l.owner r
  rw [hrun, conclude] at hperform
  exact congrArg Prod.fst hperform

lemma rootsOnce_of_records {maxRootBytes : UInt64} {done : List Answered} (h : l.books.Sound)
    (hmax : l.settings.maxRootBytes = maxRootBytes) (hd : l.books.Records maxRootBytes done) :
    l.RootsOnce maxRootBytes done where
  distinct := h.nodup_roots
  sizes c hc := by
    obtain ⟨h0, hlong⟩ := Staging.validateRoot_eq_ok_iff.mp (hd.valid c hc)
    exact ⟨Nat.pos_of_ne_zero h0, Nat.not_lt.mp hlong⟩
  once := by
    have hnodup := hd.enters.nodup_submitted h
    refine (List.pairwise_filterMap.mp hnodup).imp fun {a a'} hdiffer root ha ha' => ?_
    exact hdiffer root (Request.submits_iff.mp ha) root (Request.submits_iff.mp ha') rfl
  taken a ha root hroot stamp r hr := by
    obtain ⟨c, hc, hcroot, -⟩ := hd.enters.exists_row ha (Request.submits_iff.mp hroot)
    exact perform_taken h stamp (Request.submits_iff.mp hr) (hmax ▸ hcroot ▸ hd.valid c hc)
      (h.findCheckpoint_eq_some_iff.mpr ⟨hc, hcroot⟩)
  free root hnone stamp caller r index key hr hfailed := by
    obtain ⟨-, root', c, hr', -, hfind, -⟩ := taken_of_failed h hfailed rfl
    obtain ⟨hc, hcroot⟩ := h.findCheckpoint_eq_some_iff.mp hfind
    obtain ⟨a, ha, haroot⟩ := hd.enters.exists_answer hc
    obtain rfl : root' = root := Option.some.inj (hr'.symm.trans (Request.submits_iff.mp hr))
    exact hnone a ha (Request.submits_iff.mpr (hcroot ▸ haroot))
  found a ha root hroot := by
    obtain ⟨c, hc, hcroot, hreply⟩ := hd.enters.exists_row ha (Request.submits_iff.mp hroot)
    exact ⟨c, hc, h.findCheckpoint_eq_some_iff.mpr ⟨hc, hcroot⟩, hcroot, hreply⟩
  unfound root hnone := h.findCheckpoint_eq_none_iff.mpr fun c hc hcroot => by
    obtain ⟨a, ha, haroot⟩ := hd.enters.exists_answer hc
    exact hnone a ha (Request.submits_iff.mpr (hcroot ▸ haroot))

lemma perform_of_root? (stamp : Stamp) (caller : Account) {r : Request} {root : Root}
    (h : r.root? = some root) :
    l.perform stamp caller r = l.perform stamp caller (.recordRoot root) := by
  have hoperation : r.operation = (Request.recordRoot root).operation := by
    rcases Request.eq_of_root? h with rfl | ⟨text, rfl, -⟩ <;> rfl
  rw [perform, perform, Request.attempt_of_root? h, hoperation]

lemma formsAgree (h : l.books.Sound) : l.FormsAgree where
  decoded text root hx stamp stamp' z caller := by
    have hroot : (Request.recordHex text).root? = some root := by
      rw [Request.root?, hx]
      rfl
    rw [perform_of_root? stamp caller hroot]
    exact perform_restamped z l stamp stamp' caller _
  undecoded text f hx := by
    refine ⟨Root.malformed_of_ofHex hx, fun stamp caller => ?_⟩
    have hperform := perform_eq h stamp caller (.recordHex text)
    have hruling : l.books.ruling l.settings caller (.recordHex text) =
        .error (if caller = l.owner then f else .unauthorized .recordCheckpoint caller l.owner) := by
      have hprincipal : (Request.recordHex text).principal l.books.owner = l.owner := rfl
      rw [Books.ruling, hprincipal, Books.judge, hx]
      by_cases hc : caller = l.owner
      · rw [if_neg (not_not_intro hc), if_pos hc]
        rfl
      · rw [if_pos hc, if_neg hc]
        rfl
    rw [hruling, follow, Prod.mk.injEq] at hperform
    exact hperform

lemma records_run (h : l.books.Sound) (hd : l.books.Records l.settings.maxRootBytes [])
    (steps : List (Step γ)) :
    (l.run steps).books.Records l.settings.maxRootBytes (l.answered steps) :=
  answered_invariant (P := fun b done => b.Records l.settings.maxRootBytes done) h hd
    (fun _ _ _ stamp _ hs hP ha => hP.answer hs ha stamp) steps

/-- Whatever has happened to a ledger, every root is recorded at most once and found again under
the number it was recorded with, whichever form it was and is submitted in. -/
theorem roots_unique {settings : Settings} {payer : γ} {log : List LogRecord}
    (hl : create settings payer = .ok (l, log)) (steps : List (Step γ)) :
    (l.run steps).RootsOnce settings.maxRootBytes (l.answered steps) ∧
      (l.run steps).FormsAgree := by
  obtain ⟨-, rfl, -⟩ := create_eq_ok_iff.mp hl
  have hsound := Books.Sound.opened settings.owner
  have hrecords := records_run (l := ⟨{ owner := settings.owner }, settings, payer⟩) hsound
    (.opened settings.owner settings.maxRootBytes) steps
  have hsettings := settings_run (l := ⟨{ owner := settings.owner }, settings, payer⟩) hsound steps
  exact ⟨rootsOnce_of_records (hsound.run steps) (congrArg Settings.maxRootBytes hsettings) hrecords,
    formsAgree (hsound.run steps)⟩

theorem roots_unique_handover :
    let steps : List (Step RecordingPayer) :=
      [.call (.ofSeconds 0) ⟨"keeper"⟩ (.recordRoot ⟨[171]⟩),
        .call (.ofSeconds 1) ⟨"keeper"⟩ (.recordRoot ⟨[171]⟩),
        .call (.ofSeconds 2) ⟨"keeper"⟩ (.transferOwnership ⟨"ann"⟩)]
    ∃ l log, create { owner := ⟨"keeper"⟩ } ({} : RecordingPayer) = .ok (l, log) ∧
      (l.run steps).RootsOnce ({ owner := ⟨"keeper"⟩ } : Settings).maxRootBytes
        (l.answered steps) ∧
      (l.run steps).FormsAgree ∧
      (l.run steps).owner = ⟨"ann"⟩ ∧
      (l.run steps).findCheckpoint ⟨[171]⟩ = some ⟨⟨0⟩, ⟨[171]⟩⟩ ∧
      ((l.run steps).perform (.ofSeconds 6) ⟨"ann"⟩ (.recordHex "aB")).outcome =
        .error (.failed (.duplicateEntry "checkpoint.root" "ab")) := by
  intro steps
  have hl : create { owner := ⟨"keeper"⟩ } ({} : RecordingPayer) = .ok
      (⟨{ owner := ⟨"keeper"⟩ }, { owner := ⟨"keeper"⟩ }, {}⟩, _) :=
    create_eq_ok_iff.mpr ⟨by decide, rfl, rfl⟩
  obtain ⟨honce, hforms⟩ := roots_unique hl steps
  have hhex : (Request.recordHex "aB").Submits ⟨[171]⟩ := by
    have hmap : "aB".toLower.toList = "aB".toList.map Char.toLower := String.toList_map
    rw [Request.Submits, ← String.toList_inj, hmap]
    decide
  have htaken := honce.taken ⟨⟨"keeper"⟩, ⟨"keeper"⟩, .recordRoot ⟨[171]⟩, .checkpoint ⟨0⟩⟩
    (by decide) ⟨[171]⟩ rfl (.ofSeconds 6) _ hhex
  exact ⟨_, _, hl, honce, hforms, by decide, by decide, htaken⟩

end Ledger

end Depository
