import Depository.Proofs.Json.Reading

namespace Depository.Json

def member (m : String × List Char) : List Char :=
  Literal.write m.1.toList ++ ':' :: m.2

inductive Absorbs {σ : Type} (step : String → σ → Reader σ) :
    List (String × List Char) → σ → σ → Prop
  | nil (s : σ) : Absorbs step [] s s
  | cons {name : String} {text : List Char} {ms : List (String × List Char)} {s s' s'' : σ}
    (hstep : ∀ rest, Halts rest → Reads (step name s) (':' :: (text ++ rest)) s' rest)
    (hs : Absorbs step ms s' s'') : Absorbs step ((name, text) :: ms) s s''

section Members

variable {σ : Type} {step : String → σ → Reader σ} {ms : List (String × List Char)} {s s' : σ}

def further (ms : List (String × List Char)) : List Char :=
  ms.flatMap fun m => ',' :: member m

lemma halts_further (ms : List (String × List Char)) (rest : List Char) :
    Halts (further ms ++ '}' :: rest) := by
  cases ms with
  | nil => exact .cons (.inr rfl) _
  | cons m ms => exact .cons (.inl rfl) _

lemma length_le_further (ms : List (String × List Char)) : ms.length ≤ (further ms).length := by
  induction ms with
  | nil => exact Nat.le_refl 0
  | cons m ms ih =>
    simp only [further, List.flatMap_cons, List.length_append, List.length_cons] at ih ⊢
    omega

lemma separated_members (m : String × List Char) (ms : List (String × List Char)) :
    separated ((m :: ms).map member) = member m ++ further ms := by
  rw [List.map_cons, separated_cons, further, List.flatMap_map]

lemma Absorbs.reads_further (h : Absorbs step ms s s') {limit : Nat} (hlimit : ms.length < limit)
    (rest : List Char) :
    Reads (members step limit false s) (further ms ++ '}' :: rest) s' ('}' :: rest) := by
  induction h generalizing limit with
  | nil s =>
    cases limit with
    | zero => exact absurd hlimit (Nat.not_lt_zero _)
    | succ limit => exact (reads_anotherName_end false rest).bind (reads_pure _ _)
  | @cons name text ms s s' s'' hstep hs ih =>
    cases limit with
    | zero => exact absurd hlimit (Nat.not_lt_zero _)
    | succ limit =>
      have hrest := ih (Nat.lt_of_succ_lt_succ hlimit)
      have hmember := (hstep _ (halts_further ms rest)).bind hrest
      have hname := reads_anotherName_next name (':' :: (text ++ (further ms ++ '}' :: rest)))
      simpa [member, further, members] using hname.bind hmember

lemma Absorbs.reads_members (h : Absorbs step ms s s') {limit : Nat} (hlimit : ms.length < limit)
    (rest : List Char) :
    Reads (members step limit true s) (separated (ms.map member) ++ '}' :: rest) s'
      ('}' :: rest) := by
  cases limit with
  | zero => exact absurd hlimit (Nat.not_lt_zero _)
  | succ limit =>
    cases h with
    | nil => exact (reads_anotherName_end true rest).bind (reads_pure _ _)
    | @cons name text ms s s₁ s' hstep hs =>
      have hrest := hs.reads_further (Nat.lt_of_succ_lt_succ hlimit) rest
      have hmember := (hstep _ (halts_further ms rest)).bind hrest
      have hname := reads_anotherName_first name (':' :: (text ++ (further ms ++ '}' :: rest)))
      rw [separated_members]
      simpa [member, members] using hname.bind hmember

lemma length_le_separated (ms : List (String × List Char)) :
    ms.length ≤ (separated (ms.map member)).length := by
  cases ms with
  | nil => exact Nat.le_refl 0
  | cons m ms =>
    have hle := length_le_further ms
    rw [separated_members, member]
    simp only [List.length_append, List.length_cons]
    omega

end Members

namespace Fields

variable {F : Type → Type}

def names {γ : Type} : Fields F γ → List String
  | done => []
  | field name _ _ rest => name :: rest.names

def entries {γ : Type} (render : {α : Type} → F α → α → List Char) :
    Fields F γ → γ → List (String × List Char)
  | done, _ => []
  | field name form _ rest, v => (name, render form v.1) :: rest.entries render v.2

def All {γ : Type} (P : {α : Type} → F α → Prop) : Fields F γ → Prop
  | done => True
  | field _ form _ rest => P form ∧ rest.All P

lemma All.mono {P Q : {α : Type} → F α → Prop} {γ : Type} {fs : Fields F γ} (h : fs.All P)
    (hpq : ∀ {α : Type} {form : F α}, P form → Q form) : fs.All Q := by
  induction fs with
  | done => exact trivial
  | field _ _ _ _ ih => exact ⟨hpq h.1, ih h.2⟩

def draft {α β : Type} {name : String} {form : F α} {fallback : Option α} {rest : Fields F β}
    (first : Option α) (d : rest.Draft) : (field name form fallback rest).Draft :=
  (first, d)

def full {γ : Type} : (fs : Fields F γ) → γ → fs.Draft
  | done, _ => ()
  | field _ _ _ rest, v => draft (some v.1) (rest.full v.2)

section Given

/- The names of the members that are given; a field left out has to have a fallback. -/
variable (given : String → Bool)

def Spares {γ : Type} : Fields F γ → Prop
  | done => True
  | field name _ fallback rest => (given name = true ∨ fallback.isSome = true) ∧ rest.Spares

def sketch {γ : Type} : (fs : Fields F γ) → γ → fs.Draft
  | done, _ => ()
  | field name _ _ rest, v => draft (if given name then some v.1 else none) (rest.sketch v.2)

/-- The value with the fallbacks in place of what is not given. -/
def filled {γ : Type} : Fields F γ → γ → γ
  | done, _ => ()
  | field name _ fallback rest, v =>
    (if given name then v.1 else fallback.getD v.1, rest.filled v.2)

end Given

lemma write_eq_entries {γ : Type} (render : {α : Type} → F α → α → List Char) (fs : Fields F γ)
    (v : γ) : fs.write render v = (fs.entries render v).map member := by
  induction fs with
  | done => rfl
  | field name form fallback rest ih =>
    rw [entries, List.map_cons, ← ih]
    rfl

lemma finish_full {γ : Type} (fs : Fields F γ) (v : γ) : fs.finish (fs.full v) = .ok v := by
  induction fs with
  | done => rfl
  | field name form fallback rest ih =>
    have hrest := ih v.2
    simp only [finish, full, draft]
    rw [hrest]
    rfl

lemma finish_sketch {given : String → Bool} {γ : Type} {fs : Fields F γ} (h : fs.Spares given)
    (v : γ) : fs.finish (fs.sketch given v) = .ok (fs.filled given v) := by
  induction fs with
  | done => rfl
  | field name form fallback rest ih =>
    have hrest := ih h.2 v.2
    simp only [finish, sketch, draft, filled]
    rw [hrest]
    by_cases hgiven : given name = true
    · simp only [hgiven, if_true]
      rfl
    · obtain ⟨value, rfl⟩ := Option.isSome_iff_exists.mp (h.1.resolve_left hgiven)
      simp only [hgiven]
      rfl

lemma spares_all {γ : Type} (fs : Fields F γ) : fs.Spares fun _ => true := by
  induction fs with
  | done => exact trivial
  | field _ _ _ _ ih => exact ⟨.inl rfl, ih⟩

lemma filled_all {γ : Type} (fs : Fields F γ) (v : γ) : fs.filled (fun _ => true) v = v := by
  induction fs with
  | done => rfl
  | field _ _ _ _ ih => exact congrArg (Prod.mk v.1) (ih v.2)

section Assign

variable {m : Type → Type} [Monad m] [LawfulMonad m] [MonadExcept Fault m]
  (fetch : {α : Type} → F α → m α) {α β : Type} {own : String} {form : F α} {fallback : Option α}
  {rest : Fields F β}

lemma assign_own (d : rest.Draft) :
    (field own form fallback rest).assign fetch own (draft none d) =
      some ((fun v => draft (some v) d) <$> fetch form) := by
  rw [assign, if_pos rfl]
  simp only [draft, Option.isSome_none, Bool.false_eq_true, ↓reduceIte, bind_pure_comp]
  rfl

lemma assign_other {name : String} (h : name ≠ own) (first : Option α) (d : rest.Draft) :
    (field own form fallback rest).assign fetch name (draft first d) =
      (rest.assign fetch name d).map (draft first <$> ·) := by
  rw [assign, if_neg h]
  simp only [draft, bind_pure_comp]
  rfl

end Assign

section Stores

variable {σ : Type} {m : Type → Type} [Monad m] [LawfulMonad m] [MonadExcept Fault m]

def Stores (step : String → σ → m σ) (fetch : {α : Type} → F α → m α) {γ : Type}
    (fs : Fields F γ) (lift : fs.Draft → σ) : Prop :=
  ∀ name ∈ fs.names, ∀ d r, fs.assign fetch name d = some r → step name (lift d) = lift <$> r

variable {step : String → σ → m σ} {fetch : {α : Type} → F α → m α} {α β : Type} {own : String}
  {form : F α} {fallback : Option α} {rest : Fields F β}
  {lift : (field own form fallback rest).Draft → σ}

lemma Stores.head (h : (field own form fallback rest).Stores step fetch lift) (d : rest.Draft) :
    step own (lift (draft none d)) = (fun v => lift (draft (some v) d)) <$> fetch form := by
  rw [h own List.mem_cons_self _ _ (assign_own fetch d), Functor.map_map]

lemma Stores.tail (h : (field own form fallback rest).Stores step fetch lift)
    (hown : own ∉ rest.names) (first : Option α) :
    rest.Stores step fetch fun d => lift (draft first d) := by
  intro name hname d r hr
  have hne : name ≠ own := fun he => hown (he ▸ hname)
  have hassign : (field own form fallback rest).assign fetch name (draft first d) =
      some (draft first <$> r) := by rw [assign_other fetch hne first d, hr]; rfl
  rw [h name (List.mem_cons_of_mem _ hname) _ _ hassign, Functor.map_map]

end Stores

lemma Stores.absorbs {σ : Type} {step : String → σ → Reader σ}
    {fetch : {α : Type} → F α → Reader α} {render : {α : Type} → F α → α → List Char} {γ : Type}
    {fs : Fields F γ} {lift : fs.Draft → σ} (h : fs.Stores step fetch lift)
    (hnames : fs.names.Nodup)
    (hfetch : fs.All fun form => ∀ v rest, Halts rest →
      Reads (fetch form) (':' :: (render form v ++ rest)) v rest)
    (given : String → Bool) (v : γ) :
    Absorbs step ((fs.entries render v).filter fun m => given m.1) (lift fs.blank)
      (lift (fs.sketch given v)) := by
  induction fs with
  | done => exact .nil _
  | field own form fallback rest ih =>
    obtain ⟨hown, hnames⟩ := List.nodup_cons.mp hnames
    rw [entries, List.filter_cons]
    by_cases hgiven : given own = true
    · simp only [sketch, hgiven, if_true]
      refine .cons (fun text htext => ?_) (ih (h.tail hown (some v.1)) hnames hfetch.2 v.2)
      have hread := hfetch.1 v.1 text htext
      exact (h.head rest.blank).symm ▸ hread.map fun a => lift (draft (some a) rest.blank)
    · simp only [sketch, hgiven]
      exact ih (h.tail hown none) hnames hfetch.2 v.2

def Holds {γ : Type} : Fields Scalar γ → γ → List (String × Value) → Prop
  | done, _, ms => ms = []
  | field name form _ rest, v, ms =>
    ∃ kept ms', ms = (name, kept) :: ms' ∧ form.accept kept.head = .ok v.1 ∧ rest.Holds v.2 ms'

lemma Holds.foldlM {σ γ : Type} {fs : Fields Scalar γ} {v : γ} {ms : List (String × Value)}
    (h : fs.Holds v ms) (hnames : fs.names.Nodup)
    {take : σ → String × Value → Except Fault σ} (lift : fs.Draft → σ)
    (htake : ∀ kept : Value, fs.Stores (fun name s => take s (name, kept))
      (fun form => form.accept kept.head) lift) :
    ms.foldlM take (lift fs.blank) = .ok (lift (fs.full v)) := by
  induction fs generalizing ms with
  | done =>
    obtain rfl : ms = [] := h
    rfl
  | field own form fallback rest ih =>
    obtain ⟨kept, ms, rfl, haccept, hrest⟩ := h
    obtain ⟨hown, hnames⟩ := List.nodup_cons.mp hnames
    have hfirst := (htake kept).head rest.blank
    rw [haccept] at hfirst
    have hstep : take (lift (draft none rest.blank)) (own, kept) =
      .ok (lift (draft (some v.1) rest.blank)) := hfirst
    refine Eq.trans ?_ (ih hrest hnames _ fun kept => (htake kept).tail hown (some v.1))
    exact congrArg (· >>= fun s => ms.foldlM take s) hstep

lemma Holds.takeMembers {γ : Type} {fs : Fields Scalar γ} {v : γ} {ms : List (String × Value)}
    (h : fs.Holds v ms) (hnames : fs.names.Nodup) : Variant.takeMembers fs ms = .ok v := by
  have hfold : ms.foldlM (fun d m =>
      (fs.assign (fun form => form.accept m.2.head) m.1 d).getD (.ok d)) fs.blank =
        .ok (fs.full v) := h.foldlM hnames id fun kept name _ d r hr => by simp [hr]
  rw [Variant.takeMembers]
  exact (congrArg (· >>= fun d => fs.finish d) hfold).trans (fs.finish_full v)

end Fields

namespace Record

variable {τ : Type} {r : Record τ}

def writeGiven (r : Record τ) (given : String → Bool) (v : τ) : List Char :=
  '{' :: separated (((r.fields.entries Format.write (r.parts v)).filter fun m => given m.1).map
    member) ++ ['}']

lemma writeGiven_all (v : τ) : r.writeGiven (fun _ => true) v = r.format.write v := by
  simp [writeGiven, Record.format, Fields.write_eq_entries]

lemma reads_given (hnames : r.fields.names.Nodup) (hfields : r.fields.All Format.Returns)
    {given : String → Bool} (hgiven : r.fields.Spares given) (v : τ) (rest : List Char) :
    Reads r.format.read (r.writeGiven given v ++ rest)
      (r.make (r.fields.filled given (r.parts v))) rest := by
  let fetch {α : Type} (form : Format α) : Reader α := do colon; form.read
  let step (name : String) (d : r.fields.Draft) : Reader r.fields.Draft :=
    (r.fields.assign fetch name d).getD do colon; skip; return d
  have hstores : r.fields.Stores step fetch id := fun name _ d x hx => by
    simp only [step, id_eq, hx, Option.getD_some, id_map]
  have hfetch : r.fields.All fun form => ∀ v rest, Halts rest →
      Reads (fetch form) (':' :: (form.write v ++ rest)) v rest :=
    hfields.mono fun h v rest hrest => (reads_colon _).bind (h v rest hrest)
  let ms := (r.fields.entries Format.write (r.parts v)).filter fun m => given m.1
  let text := separated (ms.map member) ++ '}' :: rest
  have habsorbs : Absorbs step ms r.fields.blank (r.fields.sketch given (r.parts v)) :=
    hstores.absorbs hnames hfetch given (r.parts v)
  have hlimit : ms.length < text.length + 1 := by
    have hle := length_le_separated ms
    simp only [text, List.length_append]
    omega
  have hmembers := habsorbs.reads_members hlimit rest
  have hfinish := reads_ok (r.fields.finish_sketch hgiven (r.parts v)) ('}' :: rest)
  have hmade := reads_pure (r.make (r.fields.filled given (r.parts v))) rest
  have hread : Reads r.readMembers text (r.make (r.fields.filled given (r.parts v))) rest :=
    (reads_get text).bind (hmembers.bind (hfinish.bind ((reads_closeObject rest).bind hmade)))
  have hwrite : r.writeGiven given v ++ rest = '{' :: text := by
    simp [text, ms, writeGiven]
  rw [hwrite]
  exact (reads_head_object text).bind hread

lemma returns (hnames : r.fields.names.Nodup) (hfields : r.fields.All Format.Returns)
    (hmake : ∀ v, r.make (r.parts v) = v) : r.format.Returns := by
  intro v rest _
  have hread := reads_given hnames hfields r.fields.spares_all v rest
  rwa [writeGiven_all, r.fields.filled_all, hmake] at hread

end Record

namespace Value

def ofHead : Head → Value
  | .null => null
  | .bool b => bool b
  | .number n => number n
  | .text s => text s
  | .array => array []
  | .object => object []

lemma head_ofHead (h : Head) : (ofHead h).head = h := by
  cases h <;> rfl

lemma reads_ofHead {h : Head} {text rest : List Char} (hwhole : h.isWhole = true)
    (hread : Reads Json.head text h rest) (room : Nat) :
    Reads (read room) text (ofHead h) rest := by
  have hwith : ∀ part, Reads (readWith part) text (ofHead h) rest := fun part => by
    cases h with
    | array | object => cases hwhole
    | _ => exact hread.bind (reads_pure _ rest)
  cases room with
  | zero => exact hwith none
  | succ room => exact hwith (some (read room))

end Value

lemma Variant.exists_of_ofMembers {τ γ : Type} {tag name : String} {fields : Fields Scalar γ}
    {make : γ → τ} {ms : List (String × Value)} {made : τ}
    (h : (Variant.of tag name fields make).ofMembers ms = .ok made) : ∃ v, made = make v := by
  simp only [Variant.of] at h
  cases htake : Variant.takeMembers fields ms with
  | error f =>
    rw [htake] at h
    cases h
  | ok v =>
    rw [htake] at h
    exact ⟨v, (Except.ok.inj h).symm⟩

namespace Tagged

variable {τ γ : Type} (t : Tagged τ) (room : Nat)

lemma absorbs_kept {fs : Fields Scalar γ} (hfields : fs.All Scalar.Returns)
    (hkey : t.key ∉ fs.names) (v : γ) (shape : Variant τ) (acc : List (String × Value)) :
    ∃ ms, fs.Holds v ms ∧ Absorbs (t.readMember room) (fs.entries Scalar.write v)
      (some shape, acc) (some shape, ms.reverse ++ acc) := by
  induction fs generalizing acc with
  | done => exact ⟨[], rfl, .nil _⟩
  | field name form fallback rest ih =>
    obtain ⟨hname, hkey⟩ := not_or.mp (List.mem_cons.not.mp hkey)
    obtain ⟨h, hwhole, haccept, hread⟩ := hfields.1 v.1
    obtain ⟨ms, hms, habsorbs⟩ := ih hfields.2 hkey v.2 ((name, Value.ofHead h) :: acc)
    have hstep : ∀ text, Halts text → Reads (t.readMember room name (some shape, acc))
        (':' :: (form.write v.1 ++ text)) (some shape, (name, Value.ofHead h) :: acc) text := by
      intro text htext
      have hkept := Value.reads_ofHead hwhole (hread text htext) room
      rw [readMember, if_neg (Ne.symm hname)]
      exact (reads_colon _).bind (hkept.bind (reads_pure _ text))
    have hheld : form.accept (Value.ofHead h).head = .ok v.1 := by
      rw [Value.head_ofHead, haccept]
    refine ⟨(name, Value.ofHead h) :: ms, ⟨_, ms, rfl, hheld, hms⟩, .cons hstep ?_⟩
    rw [List.reverse_cons, List.append_assoc]
    exact habsorbs

lemma reads_writeAs {tag name : String} {fields : Fields Scalar γ} {make : γ → τ}
    (hvariant : t.variant (.text tag) = .ok (.of tag name fields make))
    (hnames : fields.names.Nodup) (hkey : t.key ∉ fields.names)
    (hfields : fields.All Scalar.Returns) (v : γ) (rest : List Char) :
    Reads (t.read room) (t.writeAs tag fields v ++ rest) (make v) rest := by
  let shape : Variant τ := .of tag name fields make
  let entries := (t.key, Literal.write tag.toList) :: fields.entries Scalar.write v
  let text := separated (entries.map member) ++ '}' :: rest
  obtain ⟨ms, hms, hkept⟩ := t.absorbs_kept room hfields hkey v shape []
  have habsorbs :
      Absorbs (t.readMember room) entries (none, []) (some shape, ms.reverse ++ []) := by
    refine .cons (fun text _ => ?_) hkept
    have hshape := reads_ok hvariant text
    rw [readMember, if_pos rfl]
    exact (reads_colon _).bind
      ((reads_head_text tag text).bind (hshape.bind (reads_pure (some shape, []) text)))
  have hlimit : entries.length < text.length + 1 := by
    have hle := length_le_separated entries
    simp only [text, List.length_append]
    omega
  have hmembers := habsorbs.reads_members hlimit rest
  have hmade : shape.ofMembers (ms.reverse ++ []).reverse = .ok (make v) := by
    simp [shape, Variant.of, hms.takeMembers hnames, Except.map]
  have hobject : Reads (objectOf (t.readMember room) (none, [])) text
      (some shape, ms.reverse ++ []) rest :=
    (reads_get text).bind (hmembers.bind ((reads_closeObject rest).bind (reads_pure _ rest)))
  have hwrite : t.writeAs tag fields v ++ rest = '{' :: text := by
    simp [text, entries, writeAs, Fields.write_eq_entries, member]
  rw [hwrite]
  exact (reads_head_object text).bind (hobject.bind (reads_ok hmade rest))

end Tagged

end Depository.Json
