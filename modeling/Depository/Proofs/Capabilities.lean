import Depository.Proofs.Ledger.Payouts
import Depository.Proofs.Steps

namespace Depository

open Store

variable {γ α β : Type}

/-- The failures that turn a capability down. No other step of a call fails in these classes. -/
def Failure.IsRefusal (f : Failure) : Prop :=
  f.category = .authorization ∨ f.category = .internal

namespace Capability

variable {operation : Operation} {caller required owner : Account} {subject : Option Account}
variable {c : Capability}

lemma authorize_eq_ok_iff :
    authorize operation caller required = .ok c ↔ caller = required ∧ c = ⟨operation, caller⟩ := by
  rw [authorize]
  split_ifs with h
  · simp [h, eq_comm]
  · simp [h]

lemma grant_eq_ok_iff :
    grant operation caller owner subject = .ok c ↔
      operation.policy.required owner subject = .ok caller ∧ c = ⟨operation, caller⟩ := by
  cases h : operation.policy.required owner subject with
  | error f =>
    have hgrant : grant operation caller owner subject = .error f := by
      rw [grant, h]
      rfl
    simp [hgrant]
  | ok required =>
    have hgrant : grant operation caller owner subject = authorize operation caller required := by
      rw [grant, h]
      rfl
    rw [hgrant, authorize_eq_ok_iff, Except.ok.injEq, eq_comm]

lemma isRefusal_ensure {f : Failure} (h : c.ensure operation required = .error f) :
    f.IsRefusal := by
  rw [ensure] at h
  split_ifs at h
  · cases h
    exact .inr rfl
  · cases h
    exact .inl rfl

lemma category_of_ensure {f : Failure} (h : c.ensure operation required = .error f) :
    f.category ≠ .externalCollaborator := by
  rcases isRefusal_ensure h with hf | hf <;> simp [hf]

end Capability

namespace Staging

def Unrefusing (m : Staging γ α) : Prop :=
  ∀ (s : Session γ) (f : Failure), (m.runIn s).1 = .error (.failed f) → ¬ f.IsRefusal

section Unrefusing

lemma unrefusing_of_ok {m : Staging γ α} (h : ∀ s, ∃ a, (m.runIn s).1 = .ok a) : Unrefusing m := by
  intro s f hf
  obtain ⟨a, ha⟩ := h s
  rw [ha] at hf
  cases hf

lemma unrefusing_fail {f : Failure} (h : ¬ f.IsRefusal) : Unrefusing (fail f : Staging γ α) := by
  intro s f' hf
  obtain rfl : f = f' := Abort.failed.inj (Except.error.inj hf)
  exact h

lemma Unrefusing.bind {m : Staging γ α} {g : α → Staging γ β} (hm : Unrefusing m)
    (hg : ∀ a, Unrefusing (g a)) : Unrefusing (m >>= g) := by
  intro s f
  refine runIn_bind_elim (P := fun x => x.1 = .error (.failed f) → ¬ f.IsRefusal) s
    (fun e s' hrun hf => ?_) fun a s' _ => hg a s' f
  obtain rfl : e = .failed f := Except.error.inj hf
  exact hm s f (congrArg Prod.fst hrun)

lemma unrefusing_elementary : Elementary (γ := γ) Unrefusing where
  pure a := unrefusing_of_ok fun _ => ⟨a, rfl⟩
  bind hm hg := hm.bind hg
  tx := unrefusing_of_ok fun s => ⟨s.tx, rfl⟩
  setTx _ := unrefusing_of_ok fun _ => ⟨(), rfl⟩
  log _ _ := unrefusing_of_ok fun _ => ⟨(), rfl⟩
  fail f hf := unrefusing_fail (by rintro (hc | hc) <;> rw [hc] at hf <;> cases hf)

lemma unrefusing_heeded [Payer γ] (receiver : Account) (amount balance : UInt64) :
    Unrefusing (pay ⟨receiver, amount⟩ >>= heed receiver amount balance : Staging γ Unit) := by
  have hpay : Unrefusing (pay ⟨receiver, amount⟩ : Staging γ Verdict) :=
    unrefusing_of_ok fun s => ⟨(Payer.pay s.payer _).1, rfl⟩
  have hlog : ∀ r, Unrefusing (log r : Staging γ Unit) := fun _ =>
    unrefusing_of_ok fun _ => ⟨(), rfl⟩
  refine hpay.bind fun verdict => ?_
  cases verdict with
  | accepted => exact hlog fun tx => .withdrawalStaged tx ..
  | rejected reason =>
    refine (hlog _).bind fun _ => unrefusing_fail ?_
    simp [Failure.IsRefusal, Failure.category]
  | panicked =>
    intro s f hf
    cases hf

end Unrefusing

/-- The call goes past its check just if the capability is for its operation and from the required
principal. Otherwise it says which of the two is wrong, the operation first, and leaves the session
as it was. -/
structure Guarded (operation : Operation) (required : Transaction → Account)
    (call : Capability → Staging γ α) (body : Staging γ α) : Prop where
  passes : ∀ c (s : Session γ), c.operation = operation → c.principal = required s.tx →
    (call c).runIn s = body.runIn s
  misdirected : ∀ c (s : Session γ), c.operation ≠ operation →
    (call c).runIn s = (.error (.failed (.internal
      s!"capability for {c.operation.label} presented to {operation.label}")), s)
  unconsented : ∀ c (s : Session γ), c.operation = operation → c.principal ≠ required s.tx →
    (call c).runIn s =
      (.error (.failed (.unauthorized operation c.principal (required s.tx))), s)
  refuses_iff : ∀ c (s : Session γ),
    (∃ f, ((call c).runIn s).1 = .error (.failed f) ∧ f.IsRefusal) ↔
      ¬ (c.operation = operation ∧ c.principal = required s.tx)

lemma guarded_of_ensure {operation : Operation} {required : Transaction → Account}
    {call : Capability → Staging γ α} {body : Staging γ α}
    (hcall : ∀ c s, (call c).runIn s =
      (check (c.ensure operation (required s.tx)) >>= fun _ => body).runIn s)
    (hbody : Unrefusing body) : Guarded operation required call body := by
  have hpasses : ∀ c s, c.operation = operation → c.principal = required s.tx →
      (call c).runIn s = body.runIn s := by
    intro c s hop hp
    simp [hcall, Capability.ensure, hop, hp]
  have hmisdirected : ∀ c s, c.operation ≠ operation →
      (call c).runIn s = (.error (.failed (.internal
        s!"capability for {c.operation.label} presented to {operation.label}")), s) := by
    intro c s hop
    simp [hcall, Capability.ensure, hop]
  have hunconsented : ∀ c s, c.operation = operation → c.principal ≠ required s.tx →
      (call c).runIn s =
        (.error (.failed (.unauthorized operation c.principal (required s.tx))), s) := by
    intro c s hop hp
    simp [hcall, Capability.ensure, hop, hp]
  refine ⟨hpasses, hmisdirected, hunconsented, fun c s => ?_⟩
  constructor
  · rintro ⟨f, hf, hrefusal⟩ ⟨hop, hp⟩
    rw [hpasses c s hop hp] at hf
    exact hbody s f hf hrefusal
  · intro h
    by_cases hop : c.operation = operation
    · have hp : c.principal ≠ required s.tx := fun hp => h ⟨hop, hp⟩
      exact ⟨_, congrArg Prod.fst (hunconsented c s hop hp), .inl rfl⟩
    · exact ⟨_, congrArg Prod.fst (hmisdirected c s hop), .inr rfl⟩

lemma guarded_placeOrder (request : OrderRequest) :
    Guarded .placeOrder (fun _ => request.owner) (fun c => placeOrder c request)
      (enterOrder request : Staging γ OrderId) :=
  guarded_of_ensure (fun c s => congrArg (runIn · s) (placeOrder_steps c request))
    (unrefusing_elementary.enterOrder request)

lemma guarded_recordCheckpoint (root : Root) (maxBytes : UInt64) :
    Guarded .recordCheckpoint Transaction.owner (fun c => recordCheckpoint c root maxBytes)
      (fileRoot root maxBytes : Staging γ CheckpointId) := by
  refine guarded_of_ensure (fun c s => ?_) (unrefusing_elementary.fileRoot root maxBytes)
  rw [recordCheckpoint_steps]
  simp [owner]

lemma guarded_withdraw [Payer γ] (receiver : Account) (amount : UInt64) :
    Guarded .withdraw Transaction.owner (fun c => withdraw c receiver amount)
      (payOut receiver amount : Staging γ Unit) := by
  refine guarded_of_ensure (fun c s => ?_)
    (unrefusing_elementary.payOut unrefusing_heeded receiver amount)
  rw [withdraw_steps]
  cases h : c.ensure .withdraw s.tx.owner <;> simp [owner, payOut, h]

end Staging

variable [Payer γ]

/-- Anyone is given a capability that they ask for in their own name, and a call heeds it only if
it is for that call and from the principal whose consent the call needs. -/
theorem capabilities_heeded :
    (∀ operation caller required c, Capability.authorize operation caller required = .ok c ↔
      caller = required ∧ c = ⟨operation, caller⟩) ∧
    (∀ operation caller owner subject c, Capability.grant operation caller owner subject = .ok c ↔
      operation.policy.required owner subject = .ok caller ∧ c = ⟨operation, caller⟩) ∧
    (∀ request : OrderRequest, Staging.Guarded .placeOrder (fun _ => request.owner)
      (fun c => (Staging.placeOrder c request : Staging (Watched γ) OrderId))
      (Staging.enterOrder request)) ∧
    (∀ root maxBytes, Staging.Guarded .recordCheckpoint Transaction.owner
      (fun c => (Staging.recordCheckpoint c root maxBytes : Staging (Watched γ) CheckpointId))
      (Staging.fileRoot root maxBytes)) ∧
    ∀ receiver amount, Staging.Guarded .withdraw Transaction.owner
      (fun c => (Staging.withdraw c receiver amount : Staging (Watched γ) Unit))
      (Staging.payOut receiver amount) :=
  ⟨fun _ _ _ _ => Capability.authorize_eq_ok_iff, fun _ _ _ _ _ => Capability.grant_eq_ok_iff,
    Staging.guarded_placeOrder, Staging.guarded_recordCheckpoint, Staging.guarded_withdraw⟩

end Depository
