import Depository.Json.Reader
import Depository.Proofs.Json.Written

namespace Depository.Json

def Halts (rest : List Char) : Prop := ∀ c ∈ rest.head?, Ends c

lemma Halts.nil : Halts [] := by simp [Halts]

lemma Halts.cons {c : Char} (h : Ends c) (cs : List Char) : Halts (c :: cs) := by
  simpa [Halts] using h

namespace Numeral

variable {rest : List Char} (n : Nat) (atEnd : Fault)

lemma eq_zero_of_head_toDigits {ds : List Char} (h : Nat.toDigits 10 n = '0' :: ds) : n = 0 := by
  induction n using Nat.strongRecOn generalizing ds with
  | ind n ih =>
    by_cases hn : n < 10
    · rw [Nat.toDigits_of_lt_base hn] at h
      exact Nat.digitChar_eq_zero.mp (List.cons.inj h).1
    · obtain ⟨d, es, he⟩ := List.exists_cons_of_ne_nil (Nat.toDigits_ne_nil (b := 10) (n := n / 10))
      rw [Nat.toDigits_of_base_le (by decide) (Nat.not_lt.mp hn), he] at h
      obtain ⟨rfl, -⟩ := List.cons.inj h
      have hzero := ih (n / 10) (by omega) he
      omega

lemma toDigits_eq_cons :
    ∃ d ds, Nat.toDigits 10 n = d :: ds ∧ d.isDigit = true ∧ (d = '0' → ds = []) := by
  obtain ⟨d, ds, h⟩ := List.exists_cons_of_ne_nil (Nat.toDigits_ne_nil (b := 10) (n := n))
  refine ⟨d, ds, h, ?_, ?_⟩
  · exact Nat.isDigit_of_mem_toDigits (b := 10) (n := n) (by decide) (by decide) (by simp [h])
  · rintro rfl
    obtain rfl := eq_zero_of_head_toDigits n h
    simpa using h.symm

lemma not_startsWithDigit (h : Halts rest) : startsWithDigit rest = false := by
  cases rest with
  | nil => rfl
  | cons c cs =>
    rcases h c rfl with rfl | rfl <;> rfl

lemma takeWhile_digits (h : Halts rest) :
    (Nat.toDigits 10 n ++ rest).takeWhile Char.isDigit = Nat.toDigits 10 n := by
  cases rest with
  | nil =>
    have hdigits : ∀ d ∈ Nat.toDigits 10 n, d.isDigit = true := fun d hd =>
      Nat.isDigit_of_mem_toDigits (by decide) (by decide) hd
    rw [List.takeWhile_append_of_pos hdigits, List.takeWhile_nil, List.append_nil]
  | cons c cs => exact Scalar.takeWhile_toDigits n (h c rfl) cs

lemma dropWhile_digits (h : Halts rest) :
    (Nat.toDigits 10 n ++ rest).dropWhile Char.isDigit = rest := by
  have hsplit :=
    List.takeWhile_append_dropWhile (p := Char.isDigit) (l := Nat.toDigits 10 n ++ rest)
  rw [takeWhile_digits n h] at hsplit
  exact List.append_cancel_left hsplit

lemma readWhole_toDigits (h : Halts rest) :
    readWhole atEnd (Nat.toDigits 10 n ++ rest) = .ok (Nat.toDigits 10 n, rest) := by
  have htake := takeWhile_digits n h
  have hdrop := dropWhile_digits n h
  obtain ⟨d, ds, hn, hd, hzero⟩ := toDigits_eq_cons n
  rw [hn, List.cons_append] at htake hdrop ⊢
  rw [readWhole.eq_def]
  split
  case h_1 cs hcs =>
    obtain ⟨rfl, rfl⟩ := List.cons.inj hcs
    rw [hzero rfl, List.nil_append, not_startsWithDigit h]
    rfl
  case h_2 => simp [digits, startsWithDigit, hd, htake, hdrop]

lemma readFraction_of_halts (h : Halts rest) : readFraction atEnd rest = .ok ([], rest) := by
  cases rest with
  | nil => rfl
  | cons c cs =>
    rcases h c rfl with rfl | rfl <;> rfl

lemma readExponent_of_halts (h : Halts rest) : readExponent atEnd rest = .ok (none, rest) := by
  cases rest with
  | nil => rfl
  | cons c cs =>
    rcases h c rfl with rfl | rfl <;> rfl

lemma read_toDigits (h : Halts rest) :
    read atEnd (Nat.toDigits 10 n ++ rest) = .ok (⟨Nat.toDigits 10 n, [], none⟩, rest) := by
  rw [read, readWhole_toDigits n atEnd h]
  dsimp only [bind, Except.bind]
  rw [readFraction_of_halts atEnd h]
  dsimp only
  rw [readExponent_of_halts atEnd h]
  rfl

lemma le_ofDigitChars (ds : List Char) (m : Nat) : m ≤ Nat.ofDigitChars 10 ds m := by
  induction ds generalizing m with
  | nil => exact Nat.le_refl m
  | cons d ds ih =>
    rw [Nat.ofDigitChars_cons]
    have hnext := ih (10 * m + (d.toNat - '0'.toNat))
    omega

lemma gather_eq {ds : List Char} {m : Nat} (h : Nat.ofDigitChars 10 ds m < UInt64.size) :
    gather m ds = (Nat.ofDigitChars 10 ds m, 0) := by
  induction ds generalizing m with
  | nil => rfl
  | cons d ds ih =>
    have hstep : Nat.ofDigitChars 10 (d :: ds) m =
        Nat.ofDigitChars 10 ds (Nat.ofDigitChars 10 [d] m) := Nat.ofDigitChars_append (l := [d]) m
    rw [hstep] at h ⊢
    have hm : Nat.ofDigitChars 10 [d] m < UInt64.size := Nat.lt_of_le_of_lt (le_ofDigitChars ds _) h
    rw [gather, if_pos hm, ih h]

lemma value_toDigits (n : UInt64) :
    value false ⟨Nat.toDigits 10 n.toNat, [], none⟩ = .ok (.natural n) := by
  have hread : Nat.ofDigitChars 10 (Nat.toDigits 10 n.toNat) 0 = n.toNat :=
    Nat.ofDigitChars_toDigits (by decide) (by decide)
  have hgather := gather_eq (hread.symm ▸ n.toNat_lt)
  rw [hread] at hgather
  have hn : n.toNat.toUInt64 = n := UInt64.ofNat_toNat
  simp [value, hgather, hn]

end Numeral

end Depository.Json
