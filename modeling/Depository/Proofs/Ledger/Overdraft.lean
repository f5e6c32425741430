import Depository.Proofs.Ledger.Isolation
import Depository.Proofs.Ledger.Poisoning
import Mathlib.Data.List.Infix

namespace Depository

namespace Op

variable {γ α : Type}

def debits (owner account : Account) (amount : UInt64) : Op γ α → Bool
  | .step (.call _ caller r) => caller = owner ∧ r = .debit account amount
  | _ => false

def Spares (owner account : Account) : Op γ α → Prop
  | .step (.call _ _ r) =>
    r.account? ≠ some account ∧ (r.payout? ≠ none → owner ≠ account)
  | _ => True

instance (owner account : Account) (op : Op γ α) : Decidable (op.Spares owner account) :=
  match op with
  | .step (.call _ _ r) =>
    inferInstanceAs (Decidable (r.account? ≠ some account ∧ (r.payout? ≠ none → owner ≠ account)))
  | .step (.tune _) | .query _ => isTrue trivial

lemma eq_of_debits {owner account : Account} {amount : UInt64} {op : Op γ α}
    (h : op.debits owner account amount = true) :
    ∃ stamp, op = .step (.call stamp owner (.debit account amount)) := by
  match op with
  | .query q => cases h
  | .step (.tune change) => cases h
  | .step (.call stamp caller r) =>
    obtain ⟨rfl, rfl⟩ := of_decide_eq_true h
    exact ⟨stamp, rfl⟩

end Op

def responsesTo {γ α : Type} (picks : Op γ α → Bool) (ops : List (Op γ α))
    (heard : List (Option (Response α))) : List (Option (Response α)) :=
  ((ops.zip heard).filter fun x => picks x.1).map Prod.snd

def Response.of {α : Type} (o : Except Abort Reply) : Option (Response α) :=
  some (.outcome o)

def Response.exhausted {α : Type} : Option (Response α) :=
  Response.of (.error (.failed (.idSpaceExhausted "event")))

def Response.isAnswer {α : Type} : Option (Response α) → Bool
  | some (.outcome (.ok _)) => true
  | _ => false

def drawn (account : Account) (balance amount : UInt64) (n : Nat) : List (Except Abort Reply) :=
  (List.range (min n (balance.toNat / amount.toNat))).map
      (fun i => .ok (.balance (balance.toNat - (i + 1) * amount.toNat).toUInt64)) ++
    List.replicate (n - balance.toNat / amount.toNat)
      (.error (.failed (.insufficientFunds account amount (balance % amount))))

def leftOver (balance amount : UInt64) (n : Nat) : UInt64 :=
  (balance.toNat - amount.toNat * min n (balance.toNat / amount.toNat)).toUInt64

lemma responsesTo_cons {γ α : Type} (picks : Op γ α → Bool) (op : Op γ α) (ops : List (Op γ α))
    (x : Option (Response α)) (heard : List (Option (Response α))) :
    responsesTo picks (op :: ops) (x :: heard) =
      if picks op then x :: responsesTo picks ops heard else responsesTo picks ops heard := by
  cases hop : picks op <;> simp [responsesTo, hop]

section Drawn

variable {account : Account} {balance amount : UInt64}

lemma drawn_zero : drawn account balance amount 0 = [] := by
  simp [drawn]

lemma leftOver_zero : leftOver balance amount 0 = balance := by
  simp [leftOver]

lemma drawn_of_lt (h : balance < amount) (n : Nat) :
    drawn account balance amount (n + 1) =
      .error (.failed (.insufficientFunds account amount balance)) ::
        drawn account balance amount n := by
  have hlt := UInt64.lt_iff_toNat_lt.mp h
  have hmod : balance % amount = balance := by
    rw [← UInt64.toNat_inj, UInt64.toNat_mod, Nat.mod_eq_of_lt hlt]
  simp [drawn, Nat.div_eq_of_lt hlt, hmod, List.replicate_succ]

lemma leftOver_of_lt (h : balance < amount) (n : Nat) : leftOver balance amount n = balance := by
  have hlt := UInt64.lt_iff_toNat_lt.mp h
  simp [leftOver, Nat.div_eq_of_lt hlt]

lemma countP_drawn {α : Type} (n : Nat) :
    ((drawn account balance amount n).map (Response.of (α := α))).countP Response.isAnswer =
      min n (balance.toNat / amount.toNat) := by
  simp [drawn, Response.of, Response.isAnswer, Function.comp_def, List.countP_map]

section Covered

variable (ha : 0 < amount) (h : amount ≤ balance)

include ha h

lemma div_of_le : balance.toNat / amount.toNat = (balance - amount).toNat / amount.toNat + 1 := by
  rw [UInt64.toNat_sub_of_le _ _ h]
  exact Nat.div_eq_sub_div (UInt64.lt_iff_toNat_lt.mp ha) (UInt64.le_iff_toNat_le.mp h)

lemma drawn_of_le (n : Nat) :
    drawn account balance amount (n + 1) =
      .ok (.balance (balance - amount)) :: drawn account (balance - amount) amount n := by
  have hdiv := div_of_le ha h
  have hsub := UInt64.toNat_sub_of_le _ _ h
  have hmod : balance % amount = (balance - amount) % amount := by
    rw [← UInt64.toNat_inj, UInt64.toNat_mod, UInt64.toNat_mod, hsub]
    exact Nat.mod_eq_sub_mod (UInt64.le_iff_toNat_le.mp h)
  have hfirst : (balance.toNat - (0 + 1) * amount.toNat).toUInt64 = balance - amount := by
    rw [Nat.zero_add, Nat.one_mul, ← hsub]
    simp
  have hlater : ∀ i, balance.toNat - (i + 1 + 1) * amount.toNat =
      (balance - amount).toNat - (i + 1) * amount.toNat := fun i => by
    rw [hsub, Nat.succ_mul, Nat.sub_sub, Nat.add_comm]
  rw [drawn, drawn, hdiv, hmod, Nat.succ_min_succ, List.range_succ_eq_map, List.map_cons,
    List.map_map, List.cons_append, hfirst, Nat.add_sub_add_right]
  simp only [Function.comp_def, Nat.succ_eq_add_one, hlater]

lemma leftOver_of_le (n : Nat) :
    leftOver balance amount (n + 1) = leftOver (balance - amount) amount n := by
  rw [leftOver, leftOver, div_of_le ha h, Nat.succ_min_succ, UInt64.toNat_sub_of_le _ _ h,
    Nat.mul_succ, Nat.sub_sub, Nat.add_comm]

end Covered

end Drawn

namespace Ledger

variable {γ α : Type} [Payer γ] {l : Ledger γ} {account : Account} {amount : UInt64}

lemma balance_spared (h : l.books.Sound) {op : Op γ α} (hop : op.Spares l.owner account) :
    (l.operate op).balanceOf account = l.balanceOf account := by
  match op with
  | .query q => rfl
  | .step (.tune change) => rfl
  | .step (.call stamp caller r) =>
    rcases perform_cases h stamp caller r with ⟨e, p, -, hl, -⟩ | ⟨kind, p, hruling, -, hl, -⟩
    · rw [operate, step, hl]
      rfl
    · have hbalance := (Books.answers_of_ruling hruling).balance stamp account
      have hloss : r.loss l.books.owner account = 0 := Request.loss_eq_zero hop.1 hop.2
      rw [Request.gain_eq_zero hop.1, hloss] at hbalance
      rw [operate, step, hl]
      exact UInt64.toNat_inj.mp hbalance

def Full (l : Ledger γ) : Prop :=
  l.settings.eventLog = true ∧ ¬ HasNext l.books.events.nextSeq

lemma books_full (h : l.books.Sound) (hfull : l.Full) (op : Op γ α) :
    (l.operate op).books = l.books ∧ (l.operate op).settings = l.settings := by
  match op with
  | .query q => exact ⟨rfl, rfl⟩
  | .step s =>
    obtain ⟨hsettings, hbooks | ⟨stamp, kind, -, hroom, -⟩⟩ := step_cases h s
    · exact ⟨hbooks, hsettings⟩
    · exact absurd (hroom hfull.1) hfull.2

lemma perform_debit (h : l.books.Sound) (stamp : Stamp) (account : Account) (amount : UInt64) :
    let p := l.perform stamp l.owner (.debit account amount)
    (l.balanceOf account < amount ∧ p.ledger = l ∧ p.outcome =
        .error (.failed (.insufficientFunds account amount (l.balanceOf account)))) ∨
      (amount ≤ l.balanceOf account ∧ ¬ l.Full ∧
        p.ledger.balanceOf account = l.balanceOf account - amount ∧
        p.outcome = .ok (.balance (l.balanceOf account - amount))) ∨
      (amount ≤ l.balanceOf account ∧ l.Full ∧ p.ledger = l ∧
        p.outcome = .error (.failed (.idSpaceExhausted "event"))) := by
  have hprincipal : l.owner = (Request.debit account amount).principal l.books.owner := rfl
  have hruling : l.books.ruling l.settings l.owner (.debit account amount) =
      l.books.withRoom l.settings.eventLog
        (l.books.judge l.settings.maxRootBytes (.debit account amount)) :=
    if_neg (not_not_intro hprincipal)
  by_cases hlt : l.balanceOf account < amount
  · have hshort : l.books.judge l.settings.maxRootBytes (.debit account amount) =
        .error (.insufficientFunds account amount (l.balanceOf account)) := if_pos hlt
    rw [hshort] at hruling
    obtain ⟨ho, hl⟩ := perform_refused h stamp hruling
    exact .inl ⟨hlt, hl, ho⟩
  · have hcovered : l.books.judge l.settings.maxRootBytes (.debit account amount) =
        .ok (.debited account amount (l.balanceOf account - amount)) := if_neg hlt
    have hle := UInt64.not_lt.mp hlt
    rw [hcovered, Books.withRoom] at hruling
    by_cases hfull : l.Full
    · obtain ⟨ho, hl⟩ := perform_refused h stamp (hruling.trans (if_pos hfull))
      exact .inr (.inr ⟨hle, hfull, hl, ho⟩)
    · obtain ⟨ho, hl⟩ := perform_unpaid h stamp (hruling.trans (if_neg hfull)) rfl
      refine .inr (.inl ⟨hle, hfull, ?_, ho⟩)
      have hbalance := l.books.balanceOf_enact l.settings.eventLog stamp
        (.debited account amount (l.balanceOf account - amount))
      rw [Books.carryOut] at hbalance
      rw [hl]
      refine (congrFun hbalance account).trans ?_
      exact (congrFun (Books.balanceOf_adjustBalance hle) account).trans (Function.update_self ..)

lemma run_full (h : l.books.Sound) (hfull : l.Full) (hle : amount ≤ l.balanceOf account)
    (ops : List (Op γ α)) :
    (l.operateAll ops).books = l.books ∧
      responsesTo (Op.debits l.owner account amount) ops (l.responses ops) =
        List.replicate (ops.countP (Op.debits l.owner account amount)) Response.exhausted := by
  induction ops generalizing l with
  | nil => exact ⟨rfl, rfl⟩
  | cons op ops ih =>
    obtain ⟨hbooks, hsettings⟩ := books_full h hfull op
    have howner : (l.operate op).owner = l.owner := congrArg Books.owner hbooks
    have hlater : (l.operate op).Full := by rwa [Full, hbooks, hsettings]
    have hcovered : amount ≤ (l.operate op).balanceOf account := by rwa [balanceOf, hbooks]
    have hsound : (l.operate op).books.Sound := sound_operateAll h [op]
    obtain ⟨hrun, hheard⟩ := ih hsound hlater hcovered
    rw [howner] at hheard
    refine ⟨hrun.trans hbooks, ?_⟩
    rw [responses, responsesTo_cons, hheard]
    cases hop : op.debits l.owner account amount with
    | false => rw [List.countP_cons_of_neg (by simp [hop])]; rfl
    | true =>
      obtain ⟨stamp, rfl⟩ := Op.eq_of_debits hop
      rw [List.countP_cons_of_pos hop, List.replicate_succ, if_pos rfl]
      rcases perform_debit h stamp account amount with
        ⟨hlt, -⟩ | ⟨-, hnot, -⟩ | ⟨-, -, -, ho⟩
      · exact absurd hle (UInt64.not_le.mpr hlt)
      · exact absurd hfull hnot
      · exact congrArg (· :: _) (congrArg Response.of ho)

/-- Of the debits among the operations, so many draw on the balance one after the other. If there
are others behind them, they were covered too but the trail is full. -/
structure Draws (l : Ledger γ) (account : Account) (amount : UInt64) (ops : List (Op γ α))
    (m : Nat) : Prop where
  le : m ≤ ops.countP (Op.debits l.owner account amount)
  heard : responsesTo (Op.debits l.owner account amount) ops (l.responses ops) =
    (drawn account (l.balanceOf account) amount m).map Response.of ++
      List.replicate (ops.countP (Op.debits l.owner account amount) - m) Response.exhausted
  left : (l.operateAll ops).balanceOf account = leftOver (l.balanceOf account) amount m
  full : m < ops.countP (Op.debits l.owner account amount) →
    m < (l.balanceOf account).toNat / amount.toNat ∧
      ¬ HasNext (l.operateAll ops).books.events.nextSeq

lemma Draws.spared {op : Op γ α} {ops : List (Op γ α)} {m : Nat}
    (hd : (l.operate op).Draws account amount ops m) (hnext : (l.operate op).owner = l.owner)
    (hop : op.debits l.owner account amount = false)
    (hbalance : (l.operate op).balanceOf account = l.balanceOf account) :
    l.Draws account amount (op :: ops) m := by
  have hcount : (op :: ops).countP (Op.debits l.owner account amount) =
      ops.countP (Op.debits l.owner account amount) := List.countP_cons_of_neg (by simp [hop])
  obtain ⟨hle, hheard, hleft, hfull⟩ := hd
  rw [hnext] at hle hheard hfull
  rw [hbalance] at hheard hleft hfull
  refine ⟨hcount ▸ hle, ?_, hleft, hcount ▸ hfull⟩
  rw [hcount, responses, responsesTo_cons, hop, ← hheard]
  rfl

lemma Draws.debited {op : Op γ α} {ops : List (Op γ α)} {m : Nat} {o : Except Abort Reply}
    (hd : (l.operate op).Draws account amount ops m) (hnext : (l.operate op).owner = l.owner)
    (hop : op.debits l.owner account amount = true) (ho : l.respond op = Response.of o)
    (hdrawn : drawn account (l.balanceOf account) amount (m + 1) =
      o :: drawn account ((l.operate op).balanceOf account) amount m)
    (hleft : leftOver (l.balanceOf account) amount (m + 1) =
      leftOver ((l.operate op).balanceOf account) amount m)
    (hcover : m < ((l.operate op).balanceOf account).toNat / amount.toNat →
      m + 1 < (l.balanceOf account).toNat / amount.toNat) :
    l.Draws account amount (op :: ops) (m + 1) := by
  have hcount : (op :: ops).countP (Op.debits l.owner account amount) =
      ops.countP (Op.debits l.owner account amount) + 1 := List.countP_cons_of_pos hop
  obtain ⟨hle, hheard, hleftOver, hfull⟩ := hd
  rw [hnext] at hle hheard hfull
  refine ⟨hcount ▸ Nat.succ_le_succ hle, ?_, hleftOver.trans hleft.symm, fun hlt => ?_⟩
  · rw [hcount, responses, responsesTo_cons, if_pos hop, hheard, ho, hdrawn, List.map_cons,
      List.cons_append, Nat.add_sub_add_right]
  · rw [hcount] at hlt
    exact (hfull (Nat.lt_of_succ_lt_succ hlt)).imp_left hcover

lemma draws_of_full (h : l.books.Sound) (ha : 0 < amount) (hfull : l.Full)
    (hle : amount ≤ l.balanceOf account) (ops : List (Op γ α)) : l.Draws account amount ops 0 := by
  obtain ⟨hbooks, hheard⟩ := run_full h hfull hle ops
  refine ⟨Nat.zero_le _, ?_, ?_, fun _ => ⟨?_, ?_⟩⟩
  · rw [hheard, drawn_zero, List.map_nil, List.nil_append, Nat.sub_zero]
  · rw [balanceOf, hbooks, leftOver_zero]
    rfl
  · exact Nat.div_pos (UInt64.le_iff_toNat_le.mp hle) (UInt64.lt_iff_toNat_lt.mp ha)
  · rw [hbooks]
    exact hfull.2

lemma exists_draws (h : l.books.Sound) (ha : 0 < amount) {ops : List (Op γ α)}
    (hops : ∀ op ∈ ops, op.debits l.owner account amount = true ∨ op.Spares l.owner account)
    (howner : ∀ before, before <+: ops → (l.operateAll before).owner = l.owner) :
    ∃ m, l.Draws account amount ops m := by
  induction ops generalizing l with
  | nil =>
    exact ⟨0, Nat.le_refl 0, by rw [drawn_zero]; rfl, leftOver_zero.symm,
      fun hlt => absurd hlt (Nat.lt_irrefl 0)⟩
  | cons op ops ih =>
    obtain ⟨hop, hops⟩ := List.forall_mem_cons.mp hops
    have hnext : (l.operate op).owner = l.owner :=
      howner [op] (List.cons_prefix_cons.mpr ⟨rfl, List.nil_prefix⟩)
    have hsound : (l.operate op).books.Sound := sound_operateAll h [op]
    obtain ⟨m, hd⟩ := ih hsound (hnext.symm ▸ hops) fun before hb =>
      (howner (op :: before) (List.cons_prefix_cons.mpr ⟨rfl, hb⟩)).trans hnext.symm
    cases hdebit : op.debits l.owner account amount with
    | false =>
      have hspares := hop.resolve_left (by simp [hdebit])
      exact ⟨m, hd.spared hnext hdebit (balance_spared h hspares)⟩
    | true =>
      obtain ⟨stamp, rfl⟩ := Op.eq_of_debits hdebit
      rcases perform_debit h stamp account amount with
        ⟨hlt, hl, ho⟩ | ⟨hle, -, hb, ho⟩ | ⟨hle, hfull, hl, ho⟩
      · have hb : (l.operate (.step (.call stamp l.owner (.debit account amount)) :
            Op γ α)).balanceOf account = l.balanceOf account := congrArg (balanceOf · account) hl
        have hdiv := Nat.div_eq_of_lt (UInt64.lt_iff_toNat_lt.mp hlt)
        refine ⟨m + 1, hd.debited hnext hdebit (congrArg Response.of ho) ?_ ?_ fun hm => ?_⟩
        · rw [hb]
          exact drawn_of_lt hlt m
        · rw [hb, leftOver_of_lt hlt, leftOver_of_lt hlt]
        · rw [hb, hdiv] at hm
          exact absurd hm (Nat.not_lt_zero m)
      · have hb : (l.operate (.step (.call stamp l.owner (.debit account amount)) :
            Op γ α)).balanceOf account = l.balanceOf account - amount := hb
        refine ⟨m + 1, hd.debited hnext hdebit (congrArg Response.of ho) ?_ ?_ fun hm => ?_⟩
        · rw [hb]
          exact drawn_of_le ha hle m
        · rw [hb]
          exact leftOver_of_le ha hle m
        · rw [hb] at hm
          rw [div_of_le ha hle]
          exact Nat.succ_lt_succ hm
      · -- No room ever comes back, so this debit and all behind it fail alike.
        exact ⟨0, draws_of_full h ha hfull hle _⟩

omit [Payer γ] in
lemma length_events_of_not_hasNext (h : l.books.Sound) (hn : ¬ HasNext l.books.events.nextSeq) :
    l.events.length = 2 ^ 64 - 1 := by
  have hlength : l.events.length = l.books.events.nextSeq.toNat := h.events.length
  have hlt : l.books.events.nextSeq.toNat < UInt64.size := l.books.events.nextSeq.toNat_lt
  have hle : UInt64.size ≤ l.books.events.nextSeq.toNat + 1 := Nat.not_lt.mp hn
  rw [hlength]
  exact Nat.le_antisymm (Nat.le_sub_one_of_lt hlt) (Nat.sub_le_of_le_add hle)

end Ledger

namespace SharedLedger

variable {γ α : Type} [Payer γ] {l : Ledger γ} {s : SharedLedger γ}

omit [Payer γ] in
lemma consult_eq_ok_iff {β : Type} {query : Ledger γ → β} {v : β} :
    s.consult query = .ok v ↔ s.poisoned = false ∧ query s.ledger = v := by
  rw [consult]
  cases s.poisoned <;> simp

lemma operateAll_of_open {before : List (Op γ α)}
    (h : ((⟨l, false⟩ : SharedLedger γ).operateAll before).poisoned = false) :
    (⟨l, false⟩ : SharedLedger γ).operateAll before = ⟨l.operateAll before, false⟩ := by
  have hcalm := poisoned_run (l := ⟨l, false⟩) before
  rw [h, Bool.false_or] at hcalm
  exact (run_open rfl hcalm.symm).2

lemma ledger_prefix (h : s.poisoned = false) {ops done : List (Op γ α)}
    (hcalm : (s.responses ops).any Response.isPanic = false) (hdone : done <+: ops) :
    (s.operateAll done).ledger = s.ledger.operateAll done := by
  obtain ⟨later, rfl⟩ := hdone
  rw [responses_append, List.any_append, Bool.or_eq_false_iff] at hcalm
  rw [(run_open h hcalm.1).2]

end SharedLedger

namespace Ledger

variable {γ α : Type} [Payer γ] {l : Ledger γ}

/-- However the clients take their turns, the debits of one amount come out one after the other: as
many are answered as the balance covers, and the others find what is left of it. The one exception
is a trail that is full, as from then on debits that are covered fail for want of room. -/
theorem debits_share_balance {settings : Settings} {payer : γ} {log : List LogRecord}
    (hl : create settings payer = .ok (l, log)) (before : List (Op γ α)) {s : SharedLedger γ}
    (hs : s = (⟨l, false⟩ : SharedLedger γ).operateAll before) {account : Account}
    {balance amount : UInt64} (hbalance : s.consult (·.balanceOf account) = .ok balance)
    (ha : 0 < amount) {ι : Type} [DecidableEq ι] (programs : ι → List (Op γ α)) (turns : List ι)
    (hops : ∀ op ∈ interleave programs turns,
      op.debits s.ledger.owner account amount = true ∨ op.Spares s.ledger.owner account)
    (howner : ∀ done, done <+: interleave programs turns →
      (s.operateAll done).ledger.owner = s.ledger.owner)
    (hcalm : (s.responses (interleave programs turns)).any Response.isPanic = false) :
    let ops := interleave programs turns
    let n := ops.countP (Op.debits s.ledger.owner account amount)
    let heard := responsesTo (Op.debits s.ledger.owner account amount) ops (s.responses ops)
    (heard = (drawn account balance amount n).map Response.of ∧
      heard.countP Response.isAnswer = min n (balance.toNat / amount.toNat) ∧
      (s.operateAll ops).consult (·.balanceOf account) = .ok (leftOver balance amount n)) ∨
    (s.operateAll ops).ledger.events.length = 2 ^ 64 - 1 ∧
      ∃ m < min n (balance.toNat / amount.toNat),
      heard = (drawn account balance amount m).map Response.of ++
        List.replicate (n - m) Response.exhausted ∧
      (s.operateAll ops).consult (·.balanceOf account) = .ok (leftOver balance amount m) := by
  obtain ⟨hopen, rfl⟩ := SharedLedger.consult_eq_ok_iff.mp hbalance
  have hsound : s.ledger.books.Sound := by
    rw [hs] at hopen ⊢
    rw [SharedLedger.operateAll_of_open hopen]
    exact sound_operateAll (sound_of_create hl) before
  obtain ⟨hresponses, hrun⟩ := SharedLedger.run_open hopen hcalm
  obtain ⟨m, hle, hheard, hleft, hfull⟩ := exists_draws hsound ha hops fun done hdone =>
    (congrArg Ledger.owner (SharedLedger.ledger_prefix hopen hcalm hdone)).symm.trans
      (howner done hdone)
  dsimp only
  rw [hresponses, hrun]
  rcases Nat.eq_or_lt_of_le hle with rfl | hlt
  · rw [Nat.sub_self, List.replicate_zero, List.append_nil] at hheard
    refine .inl ⟨hheard, ?_, SharedLedger.consult_eq_ok_iff.mpr ⟨rfl, hleft⟩⟩
    rw [hheard, countP_drawn]
  · obtain ⟨hcovered, hn⟩ := hfull hlt
    exact .inr ⟨length_events_of_not_hasNext (sound_operateAll hsound _) hn, m,
      Nat.lt_min.mpr ⟨hlt, hcovered⟩, hheard, SharedLedger.consult_eq_ok_iff.mpr ⟨rfl, hleft⟩⟩

def funding : List (Op RecordingPayer UInt64) :=
  [.step (.call (.ofSeconds 1) ⟨"ann"⟩ (.deposit ⟨"ann"⟩ 10))]

def spenders (client : Bool) : List (Op RecordingPayer UInt64) :=
  let debit (n : Int) : Op RecordingPayer UInt64 :=
    .step (.call (.ofSeconds n) ⟨"keeper"⟩ (.debit ⟨"ann"⟩ 3))
  if client then
    [debit 2, .step (.call (.ofSeconds 3) ⟨"bob"⟩ (.deposit ⟨"bob"⟩ 4)), debit 4,
      .query (·.balanceOf ⟨"ann"⟩)]
  else
    [debit 5, .step (.call (.ofSeconds 6) ⟨"keeper"⟩ (.withdraw ⟨"ann"⟩ 2)), debit 7]

theorem debits_share_balance_spenders :
    ∃ l log, create { owner := ⟨"keeper"⟩ } ({} : RecordingPayer) = .ok (l, log) ∧
      let s := (⟨l, false⟩ : SharedLedger RecordingPayer).operateAll funding
      let ops := interleave spenders [true, false, false, true, true, true, false]
      s.consult (·.balanceOf ⟨"ann"⟩) = .ok 10 ∧
      responsesTo (Op.debits ⟨"keeper"⟩ ⟨"ann"⟩ 3) ops (s.responses ops) =
        (drawn ⟨"ann"⟩ 10 3 4).map Response.of ∧
      drawn ⟨"ann"⟩ 10 3 4 = [.ok (.balance 7), .ok (.balance 4), .ok (.balance 1),
        .error (.failed (.insufficientFunds ⟨"ann"⟩ 3 1))] ∧
      (s.operateAll ops).consult (·.balanceOf ⟨"ann"⟩) = .ok 1 := by
  have hl : create { owner := ⟨"keeper"⟩ } ({} : RecordingPayer) = .ok
      (⟨{ owner := ⟨"keeper"⟩ }, { owner := ⟨"keeper"⟩ }, {}⟩, _) :=
    create_eq_ok_iff.mpr ⟨by decide, rfl, rfl⟩
  let s : SharedLedger RecordingPayer :=
    (⟨⟨{ owner := ⟨"keeper"⟩ }, { owner := ⟨"keeper"⟩ }, {}⟩, false⟩ : SharedLedger _).operateAll
      funding
  let turns := [true, false, false, true, true, true, false]
  have hten : s.consult (·.balanceOf ⟨"ann"⟩) = .ok 10 := rfl
  have howner : ∀ done ∈ (interleave spenders turns).inits,
      (s.operateAll done).ledger.owner = ⟨"keeper"⟩ := by decide
  have hshared := debits_share_balance hl funding rfl hten (by decide : (0 : UInt64) < 3) spenders
    turns (by decide) (fun done hdone => howner done ((List.mem_inits _ _).mpr hdone)) (by decide)
  rcases hshared with ⟨hheard, -, hleft⟩ | ⟨hfull, -⟩
  · exact ⟨_, _, hl, hten, hheard, by decide, hleft⟩
  · exact absurd hfull (by decide)

end Ledger

end Depository
