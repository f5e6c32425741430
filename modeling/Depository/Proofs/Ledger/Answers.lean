import Depository.Proofs.Ledger.History

namespace Depository

structure Answered where
  owner : Account
  caller : Account
  request : Request
  reply : Reply
  deriving DecidableEq, Repr

def Request.root? : Request → Option Root
  | .recordRoot root => some root
  | .recordHex text => (Root.ofHex text).toOption
  | _ => none

namespace Request

variable {γ : Type} [Payer γ] {r : Request} {root : Root}

lemma eq_of_root? (h : r.root? = some root) :
    r = .recordRoot root ∨ ∃ text, r = .recordHex text ∧ Root.ofHex text = .ok root := by
  cases r with
  | recordRoot root' => exact .inl (congrArg recordRoot (Option.some.inj h))
  | recordHex text =>
    refine .inr ⟨text, rfl, ?_⟩
    cases hx : Root.ofHex text <;> simp_all [root?, Except.toOption]
  | deposit | debit | placeOrder | withdraw | transferOwnership => cases h

lemma attempt_of_root? (h : r.root? = some root) (maxRootBytes : UInt64) (caller : Account) :
    (r.attempt maxRootBytes caller : Staging γ Reply) =
      (recordRoot root).attempt maxRootBytes caller := by
  rcases eq_of_root? h with rfl | ⟨text, rfl, hx⟩
  · rfl
  · simp [attempt, stage, operation, subject, hx]

lemma principal_of_root? (h : r.root? = some root) (owner : Account) : r.principal owner = owner := by
  rcases eq_of_root? h with rfl | ⟨text, rfl, -⟩ <;> rfl

end Request

namespace Books

lemma judge_of_root? {r : Request} {root : Root} (h : r.root? = some root) (b : Books)
    (maxRootBytes : UInt64) : b.judge maxRootBytes r = b.judgeRoot maxRootBytes root := by
  rcases Request.eq_of_root? h with rfl | ⟨text, rfl, hx⟩
  · rfl
  · rw [judge, hx]

def eventOf (b : Books) : Request → Option EventKind
  | .deposit account amount => some (.deposited account amount (b.balanceOf account + amount))
  | .debit account amount => some (.debited account amount (b.balanceOf account - amount))
  | .placeOrder o =>
    some (.orderPlaced ⟨b.orders.nextSeq⟩ o.owner o.price o.amount o.value
      (b.balanceOf o.owner + o.value))
  | .recordRoot root => some (.checkpointRecorded ⟨b.checkpoints.nextSeq⟩ root)
  | .recordHex text =>
    (Root.ofHex text).toOption.map (.checkpointRecorded ⟨b.checkpoints.nextSeq⟩)
  | .withdraw receiver amount => some (.withdrawn receiver amount)
  | .transferOwnership new => some (.ownershipTransferred b.owner new)

lemma judge_event {b : Books} {maxRootBytes : UInt64} {r : Request} {kind : EventKind}
    (h : b.judge maxRootBytes r = .ok kind) : b.eventOf r = some kind := by
  have hroot : ∀ root, b.judgeRoot maxRootBytes root = .ok kind →
      some (.checkpointRecorded ⟨b.checkpoints.nextSeq⟩ root) = some kind := by
    intro root h
    simp only [judgeRoot] at h
    split_ifs at h
    exact congrArg some (Except.ok.inj h)
  cases r with
  | recordRoot root => exact hroot root h
  | recordHex text =>
    simp only [judge] at h
    cases hx : Root.ofHex text with
    | error f => simp [hx] at h
    | ok root =>
      rw [eventOf, hx]
      exact hroot root (by simpa [hx] using h)
  | deposit | debit | placeOrder | withdraw | transferOwnership =>
    simp only [judge] at h
    split_ifs at h
    exact congrArg some (Except.ok.inj h)

end Books

structure Books.Answers (b : Books) (settings : Settings) (a : Answered) (kind : EventKind) :
    Prop where
  owner : a.owner = b.owner
  caller : a.caller = a.request.principal b.owner
  judged : b.judge settings.maxRootBytes a.request = .ok kind
  room : settings.eventLog = true → HasNext b.events.nextSeq
  reply : a.reply = kind.reply

lemma Books.answers_of_ruling {b : Books} {settings : Settings} {caller : Account} {r : Request}
    {kind : EventKind} (h : b.ruling settings caller r = .ok kind) :
    b.Answers settings ⟨b.owner, caller, r, kind.reply⟩ kind := by
  obtain ⟨hc, hj, hn⟩ := ruling_eq_ok_iff.mp h
  exact ⟨rfl, hc, hj, hn, rfl⟩

lemma Books.Answers.event {b : Books} {settings : Settings} {a : Answered} {kind : EventKind}
    (h : b.Answers settings a kind) : b.eventOf a.request = some kind :=
  judge_event h.judged

lemma Books.Answers.warrants {b : Books} {settings : Settings} {a : Answered} {kind : EventKind}
    (h : b.Answers settings a kind) : b.Warrants kind :=
  judge_warrants h.judged

lemma Books.Answers.valid {b : Books} {settings : Settings} {a : Answered} {kind : EventKind}
    (h : b.Answers settings a kind) {root : Root} (hroot : a.request.root? = some root) :
    Staging.validateRoot root settings.maxRootBytes = .ok () := by
  have hj := h.judged
  rw [judge_of_root? hroot, judgeRoot] at hj
  split_ifs at hj with h0 hlong
  exact Staging.validateRoot_eq_ok_iff.mpr ⟨h0, hlong⟩

namespace Ledger

variable {γ : Type} [Payer γ] {l : Ledger γ}

def answered? (l : Ledger γ) : Step γ → Option Answered
  | .call stamp caller r =>
    match (l.perform stamp caller r).outcome with
    | .ok reply => some ⟨l.owner, caller, r, reply⟩
    | .error _ => none
  | .tune _ => none

def answered (l : Ledger γ) : List (Step γ) → List Answered
  | [] => []
  | s :: steps => (l.answered? s).toList ++ (l.step s).answered steps

lemma run_append (steps later : List (Step γ)) : l.run (steps ++ later) = (l.run steps).run later :=
  List.foldl_append

lemma step_answered (h : l.books.Sound) (s : Step γ) :
    (l.answered? s = none ∧ (l.step s).books = l.books) ∨
      ∃ a stamp kind, l.answered? s = some a ∧ l.books.Answers l.settings a kind ∧
        (l.step s).books = l.books.enact l.settings.eventLog stamp kind := by
  cases s with
  | tune change => exact .inl ⟨rfl, rfl⟩
  | call stamp caller r =>
    rcases perform_cases h stamp caller r with ⟨e, p, ho, hl, -⟩ | ⟨kind, p, hr, ho, hl, -⟩
    · refine .inl ⟨?_, ?_⟩
      · simp only [answered?, ho]
      · rw [step, hl]
    · refine .inr ⟨⟨l.owner, caller, r, kind.reply⟩, stamp, kind, ?_,
        Books.answers_of_ruling hr, ?_⟩
      · simp only [answered?, ho]
      · rw [step, hl]

lemma answered_invariant {P : Books → List Answered → Prop} {done : List Answered}
    (h : l.books.Sound) (hP : P l.books done)
    (hstep : ∀ b done a stamp kind, b.Sound → P b done → b.Answers l.settings a kind →
      P (b.enact l.settings.eventLog stamp kind) (done ++ [a])) (steps : List (Step γ)) :
    P (l.run steps).books (done ++ l.answered steps) := by
  induction steps generalizing l done with
  | nil => simpa [answered] using hP
  | cons s steps ih =>
    -- The answer to this step, if there is one, joins those that are done before the others follow.
    have hsettings := step_settings h s
    rw [run_cons, answered, ← List.append_assoc]
    refine ih (h.step s) ?_ (hsettings ▸ hstep)
    rcases step_answered h s with ⟨hnone, hb⟩ | ⟨a, stamp, kind, hsome, ha, hb⟩
    · rw [hnone, hb, Option.toList_none, List.append_nil]
      exact hP
    · rw [hsome, hb, Option.toList_some]
      exact hstep _ _ _ _ _ h hP ha

end Ledger

end Depository
