import Depository.Proofs.Hex
import Depository.Proofs.Json.Reading

namespace Depository

namespace Hex

def IsDigit (b : UInt8) : Prop :=
  b ∈ Text.utf8 "0123456789abcdefABCDEF".toList

instance : DecidablePred IsDigit := fun b =>
  inferInstanceAs (Decidable (b ∈ Text.utf8 "0123456789abcdefABCDEF".toList))

lemma isDigit_iff {b : UInt8} : IsDigit b ↔ ∃ v, value? b.toNat = some v := by
  have hall : ∀ n : Fin 256, IsDigit (UInt8.ofNat n.val) ↔ (value? n.val).isSome := by
    decide +kernel
  have hb := hall ⟨b.toNat, b.toNat_lt⟩
  rwa [UInt8.ofNat_toNat, Option.isSome_iff_exists] at hb

lemma value?_eq_none {b : UInt8} (h : ¬ IsDigit b) : value? b.toNat = none := by
  rw [isDigit_iff, ← Option.isSome_iff_exists, Option.not_isSome_iff_eq_none] at h
  exact h

lemma decodeFrom_of_digits {text : List UInt8} (h : ∀ b ∈ text, IsDigit b) (position : Nat) :
    ∃ bytes, decodeFrom position text = .ok bytes := by
  fun_induction decodeFrom position text with
  | case1 position hi lo rest v w hw hv ih =>
    obtain ⟨bytes, hrest⟩ := ih fun b hb => h b (.tail _ (.tail _ hb))
    exact ⟨_, by rw [hrest]; rfl⟩
  | case2 position hi lo rest hnone =>
    obtain ⟨v, hv⟩ := isDigit_iff.mp (h hi List.mem_cons_self)
    simp [hv] at hnone
  | case3 position hi lo rest v hnone hv =>
    obtain ⟨w, hw⟩ := isDigit_iff.mp (h lo (.tail _ List.mem_cons_self))
    simp [hw] at hnone
  | case4 => exact ⟨[], rfl⟩

lemma decodeFrom_of_split {b : UInt8} (hb : ¬ IsDigit b) (after : List UInt8) :
    ∀ (before : List UInt8) (position : Nat), (before ++ b :: after).length % 2 = 0 →
      (∀ d ∈ before, IsDigit d) →
      decodeFrom position (before ++ b :: after) = .error (.badDigit b (position + before.length))
  | [], position, heven, _ => by
    obtain _ | ⟨lo, after⟩ := after
    · simp at heven
    · simp [decodeFrom, value?_eq_none hb]
  | [hi], position, _, hbefore => by
    obtain ⟨v, hv⟩ := isDigit_iff.mp (hbefore hi List.mem_cons_self)
    simp [decodeFrom, value?_eq_none hb, hv]
  | hi :: lo :: before, position, heven, hbefore => by
    obtain ⟨v, hv⟩ := isDigit_iff.mp (hbefore hi List.mem_cons_self)
    obtain ⟨w, hw⟩ := isDigit_iff.mp (hbefore lo (.tail _ List.mem_cons_self))
    have hrest := decodeFrom_of_split hb after before (position + 2)
      (by simp only [List.cons_append, List.length_cons] at heven; omega)
      fun d hd => hbefore d (.tail _ (.tail _ hd))
    simp only [List.cons_append, decodeFrom, hv, hw, hrest, Except.map, List.length_cons]
    rw [Nat.add_assoc, Nat.add_comm 2]

structure FirstStray (text : List UInt8) (i : Nat) (b : UInt8) : Prop where
  here : text[i]? = some b
  before : ∀ d ∈ text.take i, IsDigit d
  stray : ¬ IsDigit b

variable {text : List UInt8} {i : Nat} {b : UInt8} {flaw : Flaw}

lemma exists_firstStray (h : ¬ ∀ b ∈ text, IsDigit b) : ∃ i b, FirstStray text i b := by
  have hsome : (text.find? fun b => decide (¬ IsDigit b)).isSome := by
    simpa [List.find?_isSome] using h
  obtain ⟨b, hfind⟩ := Option.isSome_iff_exists.mp hsome
  obtain ⟨hb, before, after, rfl, hbefore⟩ := List.find?_eq_some_iff_append.mp hfind
  refine ⟨before.length, b, by simp, fun d hd => ?_, by simpa using hb⟩
  rw [List.take_left] at hd
  simpa using hbefore d hd

lemma FirstStray.decode_eq (h : FirstStray text i b) (heven : text.length % 2 = 0) :
    decode text = .error (.badDigit b i) := by
  obtain ⟨hlt, hhere⟩ := List.getElem?_eq_some_iff.mp h.here
  have hsplit : text.take i ++ b :: text.drop (i + 1) = text := by
    rw [← hhere, List.getElem_cons_drop, List.take_append_drop]
  have hdecode := decodeFrom_of_split h.stray (text.drop (i + 1)) (text.take i) 0
    (by rw [hsplit]; exact heven) h.before
  rw [hsplit, List.length_take_of_le (Nat.le_of_lt hlt), Nat.zero_add] at hdecode
  rw [decode, if_neg (by omega), hdecode]

lemma exists_decode_iff :
    (∃ bytes, decode text = .ok bytes) ↔ text.length % 2 = 0 ∧ ∀ b ∈ text, IsDigit b := by
  constructor
  · rintro ⟨bytes, h⟩
    have heven : text.length % 2 = 0 := by
      by_contra hodd
      rw [decode, if_pos (by omega)] at h
      cases h
    refine ⟨heven, ?_⟩
    by_contra hstray
    obtain ⟨i, b, hfirst⟩ := exists_firstStray hstray
    rw [hfirst.decode_eq heven] at h
    cases h
  · rintro ⟨heven, hdigits⟩
    obtain ⟨bytes, h⟩ := decodeFrom_of_digits hdigits 0
    exact ⟨bytes, by rw [decode, if_neg (by omega), h]⟩

lemma decode_eq_error_iff :
    decode text = .error flaw ↔ (text.length % 2 = 1 ∧ flaw = .oddLength) ∨
      (text.length % 2 = 0 ∧ ∃ i b, FirstStray text i b ∧ flaw = .badDigit b i) := by
  constructor
  · intro h
    by_cases hodd : text.length % 2 = 1
    · rw [decode, if_pos hodd] at h
      exact .inl ⟨hodd, (Except.error.inj h).symm⟩
    · have heven : text.length % 2 = 0 := by omega
      have hstray : ¬ ∀ b ∈ text, IsDigit b := fun hdigits => by
        obtain ⟨bytes, hok⟩ := exists_decode_iff.mpr ⟨heven, hdigits⟩
        rw [hok] at h
        cases h
      obtain ⟨i, b, hfirst⟩ := exists_firstStray hstray
      rw [hfirst.decode_eq heven] at h
      exact .inr ⟨heven, i, b, hfirst, (Except.error.inj h).symm⟩
  · rintro (⟨hodd, rfl⟩ | ⟨heven, i, b, hfirst, rfl⟩)
    · rw [decode, if_pos hodd]
    · exact hfirst.decode_eq heven

end Hex

namespace Root

variable {s t : String} {root : Root} {f : Failure}

lemma exists_ofHex_iff : (∃ root, ofHex s = .ok root) ↔
    Text.utf8Size s.toList % 2 = 0 ∧ ∀ b ∈ Text.utf8 s.toList, Hex.IsDigit b := by
  rw [Text.utf8Size, ← Hex.exists_decode_iff, ofHex, Hex.ofText]
  cases Hex.decode (Text.utf8 s.toList) with
  | ok bytes => simp
  | error flaw => cases flaw <;> simp

lemma ofHex_eq_error_iff : ofHex s = .error f ↔
    (Text.utf8Size s.toList % 2 = 1 ∧
      f = .malformed s!"commitment hex has odd length {Text.utf8Size s.toList}") ∨
    (Text.utf8Size s.toList % 2 = 0 ∧ ∃ i b, Hex.FirstStray (Text.utf8 s.toList) i b ∧
      f = .malformed s!"commitment is not hex: {(Hex.Flaw.badDigit b i).message}") := by
  have hflaw : ofHex s = .error f ↔ (Hex.ofText s = .error .oddLength ∧
      f = .malformed s!"commitment hex has odd length {Text.utf8Size s.toList}") ∨
      ∃ i b, Hex.ofText s = .error (.badDigit b i) ∧
        f = .malformed s!"commitment is not hex: {(Hex.Flaw.badDigit b i).message}" := by
    rw [ofHex]
    cases Hex.ofText s with
    | ok bytes => simp
    | error flaw => cases flaw <;> simp [eq_comm]
  rw [hflaw, Hex.ofText]
  simp [Hex.decode_eq_error_iff, Text.utf8Size, and_assoc]

lemma category_of_ofHex (h : ofHex s = .error f) : f.category = .malformedInput := by
  obtain ⟨reason, rfl⟩ := malformed_of_ofHex h
  rfl

end Root

lemma Json.Scalar.decode_eq {α : Type} (s : Scalar α) (text : String) :
    s.format.decode text =
      head.run text.toList >>= fun (h, rest) => s.accept h >>= fun v =>
        if skipSpace rest = [] then .ok v else .error .trailingCharacters := by
  rw [Format.decode, readAll, format, StateT.run_bind]
  cases head.run text.toList with
  | error fault => rfl
  | ok read =>
    obtain ⟨h, rest⟩ := read
    simp only [ok_bind]
    cases s.accept h <;> rfl

lemma Json.Scalar.toOption_decode_refine {α β : Type} (s : Scalar α) (into : α → Except Fault β)
    (back : β → α) (text : String) :
    ((s.refine into back).format.decode text).toOption =
      (s.format.decode text).toOption.bind fun v => (into v).toOption := by
  rw [decode_eq, decode_eq]
  cases head.run text.toList with
  | error fault => rfl
  | ok read =>
    obtain ⟨h, rest⟩ := read
    simp only [ok_bind, refine]
    cases s.accept h with
    | error fault => rfl
    | ok v =>
      simp only [ok_bind]
      by_cases hrest : skipSpace rest = []
      · simp only [if_pos hrest]
        change _ = (into v).toOption
        cases into v <;> rfl
      · simp only [if_neg hrest]
        cases into v <;> rfl

namespace Root

lemma toOption_decode (text : String) :
    (form.format.decode text).toOption =
      (Json.text.format.decode text).toOption.bind fun s => (ofHex s).toOption := by
  rw [form, Json.Scalar.toOption_decode_refine]
  refine congrArg _ (funext fun s => ?_)
  rw [ofHex]
  cases Hex.ofText s with
  | ok bytes => rfl
  | error flaw => cases flaw <;> rfl

/-- A text is read as the bytes of which it is the hexadecimal form in either case, and refused
for its length first and then for its first byte that is no digit. -/
theorem ofHex_decides :
    (∀ s, (∃ root, ofHex s = .ok root) ↔
      Text.utf8Size s.toList % 2 = 0 ∧ ∀ b ∈ Text.utf8 s.toList, Hex.IsDigit b) ∧
    (∀ s root, ofHex s = .ok root → root.toHex = s.toLower) ∧
    (∀ s t root root', ofHex s = .ok root → ofHex t = .ok root' →
      (root = root' ↔ s.toLower = t.toLower)) ∧
    (∀ root : Root, ofHex root.toHex = .ok root) ∧
    (∀ s f, ofHex s = .error f ↔
      (Text.utf8Size s.toList % 2 = 1 ∧
        f = .malformed s!"commitment hex has odd length {Text.utf8Size s.toList}") ∨
      (Text.utf8Size s.toList % 2 = 0 ∧ ∃ i b, Hex.FirstStray (Text.utf8 s.toList) i b ∧
        f = .malformed ("commitment is not hex: " ++
          s!"Invalid character {Text.quotedChar (Char.ofNat b.toNat)} at position {i}"))) ∧
    (∀ s f, ofHex s = .error f → f.category = .malformedInput) ∧
    (∀ text, (form.format.decode text).toOption =
      (Json.text.format.decode text).toOption.bind fun s => (ofHex s).toOption) ∧
    ∀ s, Json.text.format.decode (Json.text.format.encode s) = .ok s := by
  refine ⟨fun s => exists_ofHex_iff, fun s root h => (ofHex_eq_ok_iff.mp h).symm,
    fun s t root root' hs ht => ?_, fun root => ofHex_eq_ok_iff.mpr (Hex.toLower_toText root.bytes),
    fun s f => ofHex_eq_error_iff, fun s f => category_of_ofHex, toOption_decode,
    Json.Scalar.returns_text.format.roundTrips⟩
  rw [ofHex_eq_ok_iff] at hs ht
  constructor
  · rintro rfl
    rw [hs, ht]
  · intro h
    rw [hs, ht] at h
    exact congrArg mk (Hex.toText_injective h)

end Root

end Depository
