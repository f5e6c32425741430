import Depository.Json.Tagged
import Depository.Proofs.Json.Literal

namespace Depository.Json

def Ends (c : Char) : Prop := c = ',' ∨ c = '}'

namespace Scalar

variable {α β : Type} {s : Scalar α}

def Distinct (s : Scalar α) : Prop :=
  ∀ ⦃a b c d xs ys⦄, Ends c → Ends d → s.write a ++ c :: xs = s.write b ++ d :: ys →
    a = b ∧ c :: xs = d :: ys

lemma distinct_text : text.Distinct := by
  intro a b c d xs ys _ _ h
  obtain ⟨hab, hxy⟩ := Literal.write_append_inj h
  exact ⟨String.toList_inj.mp hab, hxy⟩

lemma takeWhile_toDigits (n : Nat) {c : Char} (hc : Ends c) (xs : List Char) :
    (Nat.toDigits 10 n ++ c :: xs).takeWhile Char.isDigit = Nat.toDigits 10 n := by
  have hdigits : ∀ d ∈ Nat.toDigits 10 n, d.isDigit = true := fun d hd =>
    Nat.isDigit_of_mem_toDigits (by decide) (by decide) hd
  have hend : c.isDigit = false := by
    rcases hc with rfl | rfl <;> rfl
  rw [List.takeWhile_append_of_pos hdigits, List.takeWhile_cons_of_neg (by simp [hend]),
    List.append_nil]

lemma distinct_u64 : u64.Distinct := by
  intro a b c d xs ys hc hd h
  have hdigits := congrArg (List.takeWhile Char.isDigit) h
  simp only [u64, natural] at hdigits h
  rw [takeWhile_toDigits _ hc, takeWhile_toDigits _ hd] at hdigits
  have hab := congrArg (fun ds => Nat.ofDigitChars 10 ds 0) hdigits
  simp only [Nat.ofDigitChars_toDigits (b := 10) (by decide) (by decide)] at hab
  rw [hdigits] at h
  exact ⟨UInt64.toNat_inj.mp hab, List.append_cancel_left h⟩

lemma Distinct.imap (h : s.Distinct) {into : α → β} {back : β → α}
    (hb : Function.Injective back) : (s.imap into back).Distinct := by
  intro a b c d xs ys hc hd he
  obtain ⟨hab, hrest⟩ := h hc hd he
  exact ⟨hb hab, hrest⟩

lemma Distinct.refine (h : s.Distinct) {into : α → Except Fault β} {back : β → α}
    (hb : Function.Injective back) : (s.refine into back).Distinct := by
  intro a b c d xs ys hc hd he
  obtain ⟨hab, hrest⟩ := h hc hd he
  exact ⟨hb hab, hrest⟩

end Scalar

namespace Fields

/-- All fields have forms that tell values apart. -/
def Distinct {γ : Type} : Fields Scalar γ → Prop
  | done => True
  | field _ form _ rest => form.Distinct ∧ rest.Distinct

def tail {γ : Type} (fs : Fields Scalar γ) (v : γ) : List Char :=
  (fs.write Scalar.write v).flatMap (',' :: ·)

lemma ends_tail {γ : Type} (fs : Fields Scalar γ) (v : γ) (xs : List Char) :
    ∃ c ys, fs.tail v ++ '}' :: xs = c :: ys ∧ Ends c := by
  cases fs with
  | done => exact ⟨_, _, rfl, .inr rfl⟩
  | field name form fallback rest => exact ⟨_, _, rfl, .inl rfl⟩

lemma tail_field {α β : Type} (name : String) (form : Scalar α) (fallback : Option α)
    (rest : Fields Scalar β) (v : α × β) (xs : List Char) :
    (field name form fallback rest).tail v ++ xs =
      ',' :: Literal.write name.toList ++ ':' :: (form.write v.1 ++ (rest.tail v.2 ++ xs)) := by
  simp [tail, write]

lemma tail_append_inj {γ : Type} {fs : Fields Scalar γ} (h : fs.Distinct) {v w : γ}
    {xs ys : List Char} (he : fs.tail v ++ '}' :: xs = fs.tail w ++ '}' :: ys) :
    v = w ∧ xs = ys := by
  induction fs generalizing xs ys with
  | done => exact ⟨rfl, (List.cons.inj he).2⟩
  | field name form fallback rest ih =>
    rw [tail_field, tail_field] at he
    have hrest := List.append_cancel_left he
    obtain ⟨c, cs, hc, hcend⟩ := rest.ends_tail v.2 xs
    obtain ⟨d, ds, hd, hdend⟩ := rest.ends_tail w.2 ys
    rw [hc, hd] at hrest
    obtain ⟨hfirst, hothers⟩ := h.1 hcend hdend (List.cons.inj hrest).2
    rw [← hc, ← hd] at hothers
    obtain ⟨hsecond, hxy⟩ := ih h.2 hothers
    exact ⟨Prod.ext hfirst hsecond, hxy⟩

end Fields

lemma separated_cons (w : List Char) (ws : List (List Char)) :
    separated (w :: ws) = w ++ ws.flatMap (',' :: ·) := by
  induction ws generalizing w with
  | nil => simp [separated]
  | cons v ws ih =>
    have hv := ih v
    simp only [separated] at hv ⊢
    simp [List.intercalate_cons_cons, hv]

namespace Tagged

variable {τ γ δ : Type} (t : Tagged τ)

lemma writeAs_eq (tag : String) (fs : Fields Scalar γ) (v : γ) :
    t.writeAs tag fs v = '{' :: Literal.write t.key.toList ++
      ':' :: (Literal.write tag.toList ++ (fs.tail v ++ ['}'])) := by
  simp [writeAs, separated_cons, Fields.tail]

lemma tag_eq_of_writeAs_eq {tag tag' : String} {fs : Fields Scalar γ} {gs : Fields Scalar δ}
    {v : γ} {w : δ} (h : t.writeAs tag fs v = t.writeAs tag' gs w) : tag = tag' := by
  rw [writeAs_eq, writeAs_eq] at h
  have htag := (List.cons.inj (List.append_cancel_left h)).2
  exact String.toList_inj.mp (Literal.write_append_inj htag).1

lemma eq_of_writeAs_eq {tag : String} {fs : Fields Scalar γ} (hf : fs.Distinct) {v w : γ}
    (h : t.writeAs tag fs v = t.writeAs tag fs w) : v = w := by
  rw [writeAs_eq, writeAs_eq] at h
  have htag := (List.cons.inj (List.append_cancel_left h)).2
  exact (Fields.tail_append_inj hf (List.append_cancel_left htag)).1

end Tagged

end Depository.Json
