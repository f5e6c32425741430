import Depository.Proofs.Hex
import Depository.Proofs.Ledger.Answers

/-! A key or an index entry that is already taken can stand against a request in one place only: a
root that is on record, and it does so before anything is allocated or staged. -/

namespace Depository

namespace Books

variable {b : Books} {settings : Settings}

lemma taken_of_judgeRoot {maxRootBytes : UInt64} {root : Root} {f : Failure}
    (h : b.judgeRoot maxRootBytes root = .error f) (hf : f.category = .duplicateEntry) :
    ∃ existing, Staging.validateRoot root maxRootBytes = .ok () ∧
      b.findCheckpoint root = some existing ∧
      f = .duplicateEntry "checkpoint.root" root.toHex := by
  simp only [judgeRoot] at h
  split_ifs at h with h0 hlong hfound hnext
  all_goals obtain rfl := Except.error.inj h
  · cases hf
  · cases hf
  · obtain ⟨existing, hexisting⟩ := Option.isSome_iff_exists.mp hfound
    exact ⟨existing, Staging.validateRoot_eq_ok_iff.mpr ⟨h0, hlong⟩, hexisting, rfl⟩
  · cases hf

lemma taken_of_judge {maxRootBytes : UInt64} {r : Request} {f : Failure}
    (h : b.judge maxRootBytes r = .error f) (hf : f.category = .duplicateEntry) :
    ∃ root existing, r.root? = some root ∧ Staging.validateRoot root maxRootBytes = .ok () ∧
      b.findCheckpoint root = some existing ∧
      f = .duplicateEntry "checkpoint.root" root.toHex := by
  cases hroot : r.root? with
  | some root =>
    rw [judge_of_root? hroot] at h
    obtain ⟨existing, htaken⟩ := taken_of_judgeRoot h hf
    exact ⟨root, existing, rfl, htaken⟩
  | none =>
    cases r with
    | recordRoot root => cases hroot
    | recordHex text =>
      cases hx : Root.ofHex text with
      | error f' =>
        obtain ⟨reason, rfl⟩ := Root.malformed_of_ofHex hx
        rw [judge, hx] at h
        obtain rfl := Except.error.inj h
        cases hf
      | ok root =>
        rw [Request.root?, hx] at hroot
        cases hroot
    | deposit | debit | placeOrder | withdraw | transferOwnership =>
      simp only [judge] at h
      split_ifs at h
      all_goals
        obtain rfl := Except.error.inj h
        cases hf

lemma taken_of_ruling {caller : Account} {r : Request} {f : Failure}
    (h : b.ruling settings caller r = .error f) (hf : f.category = .duplicateEntry) :
    caller = r.principal b.owner ∧ ∃ root existing, r.root? = some root ∧
      Staging.validateRoot root settings.maxRootBytes = .ok () ∧
      b.findCheckpoint root = some existing ∧
      f = .duplicateEntry "checkpoint.root" root.toHex := by
  rw [ruling] at h
  split_ifs at h with hc
  · obtain rfl := Except.error.inj h
    cases hf
  · refine ⟨not_not.mp hc, ?_⟩
    cases hj : b.judge settings.maxRootBytes r with
    | error f' =>
      rw [hj, withRoom] at h
      obtain rfl := Except.error.inj h
      exact taken_of_judge hj hf
    | ok kind =>
      rw [hj, withRoom] at h
      split_ifs at h
      obtain rfl := Except.error.inj h
      cases hf

end Books

namespace Ledger

variable {γ : Type} [Payer γ] {l : Ledger γ}

lemma taken_of_failed (h : l.books.Sound) {stamp : Stamp} {caller : Account} {r : Request}
    {f : Failure} (ho : (l.perform stamp caller r).outcome = .error (.failed f))
    (hf : f.category = .duplicateEntry) :
    caller = r.principal l.books.owner ∧ ∃ root existing, r.root? = some root ∧
      Staging.validateRoot root l.settings.maxRootBytes = .ok () ∧
      l.books.findCheckpoint root = some existing ∧
      f = .duplicateEntry "checkpoint.root" root.toHex := by
  rcases failed_cases h ho with hr | hc
  · exact Books.taken_of_ruling hr hf
  · cases hc.symm.trans hf

lemma runIn_attempt_taken (h : l.books.Sound) (stamp : Stamp) {caller : Account} {r : Request}
    {root : Root} {existing : Checkpoint} (hc : caller = r.principal l.books.owner)
    (hroot : r.root? = some root)
    (hv : Staging.validateRoot root l.settings.maxRootBytes = .ok ())
    (hfind : l.books.findCheckpoint root = some existing) :
    (r.attempt l.settings.maxRootBytes caller).runIn (l.session stamp) =
      (.error (.failed (.duplicateEntry "checkpoint.root" root.toHex)),
        { l.session stamp with
          log := (l.session stamp).log ++ [.duplicateRoot stamp.tx root existing.id] }) := by
  have howner : caller = (Request.recordRoot root).principal l.books.owner := by
    rw [hc, Request.principal_of_root? hroot, Request.principal_of_root? rfl]
  rw [Request.attempt_of_root? hroot, runIn_attempt_consented stamp howner]
  exact runIn_recordTaken h _ hv hfind

end Ledger

end Depository
