import Depository.Proofs.Agreement

namespace Depository

open Store

/-- The books differ in the stamps of their events at most. -/
structure Books.SameAs (b c : Books) : Prop where
  owner : b.owner = c.owner
  deposits : b.deposits.sheet = c.deposits.sheet
  orders : b.orders.sheet = c.orders.sheet
  checkpoints : b.checkpoints.sheet = c.checkpoints.sheet
  findCheckpoint : ∀ root, b.findCheckpoint root = c.findCheckpoint root
  events : b.events.rows.map Event.contents = c.events.rows.map Event.contents
  nextEvent : b.events.nextSeq = c.events.nextSeq

structure Custody (γ : Type) where
  books : Books
  payer : γ

variable {γ : Type} {b c : Books} {audited : Bool} {s s' : Session γ} {k : Custody γ}

namespace Custody

def session (k : Custody γ) (audited : Bool) (stamp : Stamp) : Session γ where
  tx := .begin stamp k.books audited
  payer := k.payer

def commit (k : Custody γ) (s : Session γ) : Custody γ :=
  ⟨k.books.apply s.tx.changes, s.payer⟩

end Custody

namespace Session.Matches

lemma begin (h : k.books.Settled) (audited : Bool) (stamp stamp' : Stamp) :
    Matches k.books k.books audited (k.session audited stamp) (k.session audited stamp') where
  left := .begin h stamp audited
  right := .begin h stamp' audited
  alike := ⟨rfl, rfl, rfl, rfl, rfl, rfl⟩
  payer := rfl

lemma commit (h : Matches b k.books audited s s') (stamp : Stamp) :
    Matches b (k.commit s').books audited s ((k.commit s').session audited stamp) where
  left := h.left
  right := .begin h.right.settled_apply stamp audited
  alike := h.alike.trans (h.right.alike_begin stamp)
  payer := h.payer

lemma sameAs {stamp : Stamp} (h : Matches b k.books audited s (k.session audited stamp)) :
    (b.apply s.tx.changes).SameAs k.books := by
  have hbegin := h.left.alike_begin stamp
  have hcheckpoints : (b.apply s.tx.changes).checkpoints.sheet = k.books.checkpoints.sheet :=
    hbegin.checkpoints.symm.trans h.alike.checkpoints
  refine
    { owner := hbegin.owner.symm.trans h.alike.owner
      deposits := hbegin.deposits.symm.trans h.alike.deposits
      orders := hbegin.orders.symm.trans h.alike.orders
      checkpoints := hcheckpoints
      findCheckpoint := fun root => ?_
      events := hbegin.events.symm.trans h.alike.events
      nextEvent := h.alike.nextEvent }
  rw [Books.findCheckpoint, Books.findCheckpoint, h.left.settled_apply.checkpoints.findUnique?_eq,
    h.right.checkpoints.settled.findUnique?_eq, hcheckpoints]

end Session.Matches

/-- What a transaction can be made to do: any call, and the two steps that a ledger adds. -/
inductive Act
  | call (c : Call)
  | emit (kind : EventKind)
  | setOwner (owner : Account)

structure Deed (γ : Type) where
  stamp : Stamp
  audited : Bool
  payer : γ
  acts : List Act

variable [Payer γ]

def Act.respond : Act → Staging γ Reply
  | call c => c.respond
  | emit kind => do
    Staging.emit kind
    return .done
  | setOwner owner => do
    Staging.setOwner owner
    return .done

def Session.enact (s : Session γ) : List Act → List (Except Abort Reply) × Session γ
  | [] => ([], s)
  | a :: acts =>
    let (answer, next) := a.respond.runIn s
    let (answers, last) := next.enact acts
    (answer :: answers, last)

namespace Custody

def together (k : Custody γ) (audited : Bool) (stamp : Stamp) (acts : List Act) :
    List (Except Abort Reply) × Custody γ :=
  let (answers, last) := (k.session audited stamp).enact acts
  (answers, k.commit last)

def each (k : Custody γ) (audited : Bool) :
    List (Stamp × Act) → List (Except Abort Reply) × Custody γ
  | [] => ([], k)
  | (stamp, a) :: acts =>
    let (answer, next) := a.respond.runIn (k.session audited stamp)
    let (answers, last) := (k.commit next).each audited acts
    (answer :: answers, last)

end Custody

namespace Books

def after (b : Books) (d : Deed γ) : Books :=
  ((Custody.mk b d.payer).together d.audited d.stamp d.acts).2.books

def reached (owner : Account) (deeds : List (Deed γ)) : Books :=
  deeds.foldl after { owner := owner }

end Books

lemma Staging.Stable.act {P : ∀ {α : Type}, Staging γ α → Prop} (h : Stable P)
    (hs : ∀ owner, P (setOwner owner)) (a : Act) : P (a.respond : Staging γ Reply) := by
  cases a with
  | call c => exact h.respond c
  | emit kind => exact h.bind (h.emit kind) fun _ => h.pure _
  | setOwner owner => exact h.bind (hs owner) fun _ => h.pure _

lemma Staging.agrees_act (a : Act) : Agrees b c audited (a.respond : Staging γ Reply) :=
  agrees_stable.act agrees_setOwner a

lemma Session.enact_upholds {I : Transaction → Prop}
    (h : ∀ a : Act, Staging.Upholds I (a.respond : Staging γ Reply)) (hs : I s.tx)
    (acts : List Act) : I (s.enact acts).2.tx := by
  induction acts generalizing s with
  | nil => exact hs
  | cons a acts ih => exact ih (h a s hs)

lemma Session.enact_events {I : Overlay eventSchema → Prop}
    (he : ∀ kind, Staging.Upholds (fun t => I t.events) (Staging.emit kind : Staging γ Unit))
    (hs : I s.tx.events) (acts : List Act) : I (s.enact acts).2.tx.events := by
  have hstable := Staging.upholds_stable_of_emit (I := fun t => I t.events) (fun _ _ h => h)
    (fun _ _ h => h) (fun _ _ h => h) he
  exact s.enact_upholds (hstable.act fun _ _ h => h) hs acts

lemma Session.Matches.enact (h : Matches b c audited s s') (acts : List Act) :
    Matches b c audited (s.enact acts).2 (s'.enact acts).2 := by
  induction acts generalizing s s' with
  | nil => exact h
  | cons a acts ih => exact ih (Staging.agrees_act a s s' h).2

lemma Session.Matches.each (h : ∀ stamp, Matches b k.books audited s (k.session audited stamp))
    (acts : List (Stamp × Act)) :
    (s.enact (acts.map Prod.snd)).1 = (k.each audited acts).1 ∧
      ∀ stamp, Matches b (k.each audited acts).2.books audited (s.enact (acts.map Prod.snd)).2
        ((k.each audited acts).2.session audited stamp) := by
  induction acts generalizing s k with
  | nil => exact ⟨rfl, h⟩
  | cons act acts ih =>
    -- The session that runs on matches the one just begun, and so it does the next one.
    obtain ⟨stamp, a⟩ := act
    obtain ⟨hanswer, hafter⟩ := Staging.agrees_act a _ _ (h stamp)
    obtain ⟨hanswers, hlast⟩ := ih hafter.commit
    exact ⟨congrArg₂ List.cons hanswer hanswers, hlast⟩

namespace Books

lemma Settled.opened (owner : Account) : Settled { owner := owner } :=
  ⟨.opened, .opened, .opened, .opened⟩

lemma Settled.after (h : b.Settled) (d : Deed γ) : (b.after d).Settled := by
  have hbegin := Session.Matches.begin (k := ⟨b, d.payer⟩) h d.audited d.stamp d.stamp
  exact (hbegin.enact d.acts).left.settled_apply

lemma reached_invariant {P : Books → Prop} {owner : Account} (h : P { owner := owner })
    (hafter : ∀ b (d : Deed γ), P b → P (b.after d)) (deeds : List (Deed γ)) :
    P (reached owner deeds) := by
  have hrun : ∀ b, P b → P (deeds.foldl after b) := by
    induction deeds with
    | nil => exact fun b hb => hb
    | cons d deeds ih => exact fun b hb => ih _ (hafter b d hb)
  exact hrun _ h

lemma settled_reached (owner : Account) (deeds : List (Deed γ)) : (reached owner deeds).Settled :=
  reached_invariant (.opened owner) (fun _ d h => h.after d) deeds

end Books

/-- On books that transactions have led to, one transaction for some acts and one for each of them
give the same answers, and leave the payer in the same state and the same in the books. -/
theorem Custody.together_as_each (owner : Account) (deeds : List (Deed γ)) (payer : γ)
    (audited : Bool) (stamp : Stamp) (acts : List (Stamp × Act)) :
    let start : Custody γ := ⟨.reached owner deeds, payer⟩
    let (answers, k) := start.together audited stamp (acts.map Prod.snd)
    let (answers', k') := start.each audited acts
    answers = answers' ∧ k.payer = k'.payer ∧ k.books.SameAs k'.books := by
  intro start
  have hsettled : start.books.Settled := Books.settled_reached owner deeds
  have hbegin := Session.Matches.begin (k := start) hsettled audited stamp
  obtain ⟨hanswers, hlast⟩ := Session.Matches.each hbegin acts
  exact ⟨hanswers, (hlast stamp).payer, (hlast stamp).sameAs⟩

end Depository
