import Depository.Checkpoint
import Mathlib.Data.List.Basic

namespace Depository

lemma Text.utf8_injective {cs ds : List Char} (h : utf8 cs = utf8 ds) : cs = ds := by
  have hbytes : cs.utf8Encode = ds.utf8Encode := congrArg List.toByteArray h
  have hchars := congrArg ByteArray.utf8Decode? hbytes
  rw [List.utf8Decode?_utf8Encode, List.utf8Decode?_utf8Encode] at hchars
  simpa using hchars

lemma Text.utf8_cons_ascii {c : Char} (h : c.toNat < 128) (cs : List Char) :
    utf8 (c :: cs) = UInt8.ofNat c.toNat :: utf8 cs := by
  have hc : String.utf8EncodeChar c = [UInt8.ofNat c.toNat] := by
    rw [String.utf8EncodeChar]
    exact if_pos (Nat.le_of_lt_succ h)
  rw [utf8, List.flatMap_cons, hc]
  rfl

namespace Hex

lemma value?_digit {n : UInt8} (h : n.toNat < 16) : value? (digit n).toNat = some n.toNat := by
  have hall : ∀ m : Fin 16, value? (digit (UInt8.ofNat m)).toNat = some m.val := by decide
  have hn := hall ⟨n.toNat, h⟩
  rwa [UInt8.ofNat_toNat] at hn

lemma digit_inj {m n : UInt8} (hm : m.toNat < 16) (hn : n.toNat < 16)
    (h : digit m = digit n) : m.toNat = n.toNat := by
  have hvalue := congrArg (fun c : Char => value? c.toNat) h
  simp only [value?_digit hm, value?_digit hn] at hvalue
  exact Option.some.inj hvalue

lemma digits_inj {x y : UInt8} (hhi : digit (x / 16) = digit (y / 16))
    (hlo : digit (x % 16) = digit (y % 16)) : x = y := by
  have hbounds : ∀ z : UInt8, (z / 16).toNat = z.toNat / 16 ∧ (z % 16).toNat = z.toNat % 16 ∧
      z.toNat < 256 := fun z => ⟨UInt8.toNat_div z 16, UInt8.toNat_mod z 16, z.toNat_lt⟩
  obtain ⟨hxd, hxm, hx⟩ := hbounds x
  obtain ⟨hyd, hym, hy⟩ := hbounds y
  have hd := digit_inj (by omega) (by omega) hhi
  have hm := digit_inj (by omega) (by omega) hlo
  exact UInt8.toNat_inj.mp (by omega)

lemma encode_injective {xs ys : List UInt8} (h : encode xs = encode ys) : xs = ys := by
  induction xs generalizing ys with
  | nil =>
    cases ys with
    | nil => rfl
    | cons y ys => simp [encode] at h
  | cons x xs ih =>
    cases ys with
    | nil => simp [encode] at h
    | cons y ys =>
      simp only [encode, List.flatMap_cons, List.cons_append, List.nil_append, List.cons.injEq] at h
      obtain ⟨hhi, hlo, hrest⟩ := h
      rw [digits_inj hhi hlo, ih hrest]

lemma toText_injective : Function.Injective toText := by
  intro xs ys h
  exact encode_injective (by simpa [toText] using congrArg String.toList h)

lemma value?_lt {code v : Nat} (h : value? code = some v) : v < 16 := by
  simp only [value?] at h
  split_ifs at h <;> simp only [Option.some.injEq] at h <;> omega

lemma value?_byte {b : UInt8} {v : Nat} (hv : v < 16) :
    value? b.toNat = some v ↔ (Char.ofNat b.toNat).toLower = digit (UInt8.ofNat v) := by
  have hall : ∀ (n : Fin 256) (v : Fin 16), value? n.val = some v.val ↔
      (Char.ofNat n.val).toLower = digit (UInt8.ofNat v.val) := by decide +kernel
  exact hall ⟨b.toNat, b.toNat_lt⟩ ⟨v, hv⟩

lemma ascii_of_toLower_eq_digit {c : Char} {v : UInt8} (hv : v.toNat < 16)
    (h : c.toLower = digit v) : c.toNat < 128 := by
  have hdigits : ∀ m : Fin 16, (digit (UInt8.ofNat m)).toNat < 128 := by decide
  by_cases hupper : c.val ≥ 'A'.val ∧ c.val ≤ 'Z'.val
  · have hz : c.toNat ≤ 90 := hupper.2
    omega
  · have hsame : c.toLower = c := dif_neg hupper
    have hdigit := hdigits ⟨v.toNat, hv⟩
    rwa [UInt8.ofNat_toNat, ← h, hsame] at hdigit

lemma value?_of_toLower {c : Char} {v : UInt8} (hv : v.toNat < 16) (h : c.toLower = digit v) :
    value? (UInt8.ofNat c.toNat).toNat = some v.toNat := by
  have hc := ascii_of_toLower_eq_digit hv h
  have hbyte : (UInt8.ofNat c.toNat).toNat = c.toNat := UInt8.toNat_ofNat_of_lt' (Nat.lt_trans hc (by decide))
  rw [value?_byte hv, hbyte, Char.ofNat_toNat, UInt8.ofNat_toNat]
  exact h

lemma decodeFrom_of_toLower {cs : List Char} {bytes : List UInt8}
    (h : cs.map Char.toLower = encode bytes) (position : Nat) :
    (Text.utf8 cs).length = 2 * bytes.length ∧ decodeFrom position (Text.utf8 cs) = .ok bytes := by
  induction bytes generalizing cs position with
  | nil =>
    obtain rfl := List.map_eq_nil_iff.mp h
    exact ⟨rfl, rfl⟩
  | cons b bytes ih =>
    obtain ⟨hi, cs, rfl, hhi, h⟩ := List.map_eq_cons_iff.mp h
    obtain ⟨lo, cs, rfl, hlo, h⟩ := List.map_eq_cons_iff.mp h
    have hb := b.toNat_lt
    have hd : (b / 16).toNat = b.toNat / 16 := UInt8.toNat_div b 16
    have hm : (b % 16).toNat = b.toNat % 16 := UInt8.toNat_mod b 16
    obtain ⟨hlength, hrest⟩ := ih h (position + 2)
    rw [Text.utf8_cons_ascii (ascii_of_toLower_eq_digit (by omega) hhi),
      Text.utf8_cons_ascii (ascii_of_toLower_eq_digit (by omega) hlo)]
    have hbyte : Nat.toUInt8 (16 * (b / 16).toNat + (b % 16).toNat) = b := by
      rw [hd, hm, Nat.div_add_mod]
      exact UInt8.ofNat_toNat
    refine ⟨by simp only [List.length_cons]; omega, ?_⟩
    simp only [decodeFrom, value?_of_toLower (v := b / 16) (by omega) hhi,
      value?_of_toLower (v := b % 16) (by omega) hlo, hrest, hbyte, Except.map]

lemma toLower_of_value? {b : UInt8} {v : Nat} (h : value? b.toNat = some v) :
    (Char.ofNat b.toNat).toNat = b.toNat ∧ b.toNat < 128 ∧
      (Char.ofNat b.toNat).toLower = digit (UInt8.ofNat v) := by
  have hb := b.toNat_lt
  have hvalid : b.toNat.isValidChar := .inl (by omega)
  have hchar : (Char.ofNat b.toNat).toNat = b.toNat := by
    rw [Char.ofNat, dif_pos hvalid]
    rfl
  refine ⟨hchar, ?_, (value?_byte (value?_lt h)).mp h⟩
  simp only [value?] at h
  split_ifs at h <;> omega

lemma halves_of_pair {v w : Nat} (hv : v < 16) (hw : w < 16) :
    Nat.toUInt8 (16 * v + w) / 16 = UInt8.ofNat v ∧
      Nat.toUInt8 (16 * v + w) % 16 = UInt8.ofNat w := by
  have hnat : ∀ n, n < 256 → (UInt8.ofNat n).toNat = n := fun n hn => UInt8.toNat_ofNat_of_lt' hn
  have hpair : (Nat.toUInt8 (16 * v + w)).toNat = 16 * v + w := hnat _ (by omega)
  constructor
  · rw [← UInt8.toNat_inj, UInt8.toNat_div, hpair, hnat v (by omega)]
    exact (by omega : (16 * v + w) / 16 = v)
  · rw [← UInt8.toNat_inj, UInt8.toNat_mod, hpair, hnat w (by omega)]
    exact (by omega : (16 * v + w) % 16 = w)

lemma exists_of_decodeFrom {position : Nat} {text bytes : List UInt8}
    (heven : text.length % 2 = 0) (h : decodeFrom position text = .ok bytes) :
    ∃ cs, Text.utf8 cs = text ∧ cs.map Char.toLower = encode bytes := by
  fun_induction decodeFrom position text generalizing bytes with
  | case1 position hi lo rest v w hw hv ih =>
    cases hrest : decodeFrom (position + 2) rest with
    | error flaw => simp [hrest, Except.map] at h
    | ok tail =>
      rw [hrest] at h
      obtain rfl : Nat.toUInt8 (16 * v + w) :: tail = bytes := Except.ok.inj h
      rw [List.length_cons, List.length_cons] at heven
      obtain ⟨cs, hcs, hlower⟩ := ih (by omega) hrest
      obtain ⟨hhi, hhi128, hhilower⟩ := toLower_of_value? hv
      obtain ⟨hlo, hlo128, hlolower⟩ := toLower_of_value? hw
      obtain ⟨hd, hm⟩ := halves_of_pair (value?_lt hv) (value?_lt hw)
      -- A byte that is a digit is a character of its own, so the text can be read off the bytes.
      refine ⟨Char.ofNat hi.toNat :: Char.ofNat lo.toNat :: cs, ?_, ?_⟩
      · rw [Text.utf8_cons_ascii (by omega), Text.utf8_cons_ascii (by omega), hhi, hlo, hcs,
          UInt8.ofNat_toNat, UInt8.ofNat_toNat]
      · rw [List.map_cons, List.map_cons, hlower, hhilower, hlolower, ← hd, ← hm]
        rfl
  | case2 => cases h
  | case3 => cases h
  | case4 text _ hshort =>
    obtain rfl := Except.ok.inj h
    refine ⟨[], ?_, rfl⟩
    match text, heven, hshort with
    | [], _, _ => rfl
    | hi :: lo :: rest, _, hshort => exact (hshort hi lo rest rfl).elim

lemma ofText_eq_ok_iff {s : String} {bytes : List UInt8} :
    ofText s = .ok bytes ↔ s.toLower = toText bytes := by
  have hlower : s.toLower = toText bytes ↔ s.toList.map Char.toLower = encode bytes := by
    have hmap : s.toLower.toList = s.toList.map Char.toLower := String.toList_map
    rw [← String.toList_inj, hmap, toText, String.toList_ofList]
  rw [hlower, ofText, decode]
  constructor
  · intro h
    split_ifs at h with hodd
    obtain ⟨cs, hcs, hdigits⟩ := exists_of_decodeFrom (by omega) h
    rwa [← Text.utf8_injective hcs]
  · intro h
    obtain ⟨hlength, hdecode⟩ := decodeFrom_of_toLower h 0
    rw [if_neg (by omega)]
    exact hdecode

lemma toLower_toText (bytes : List UInt8) : (toText bytes).toLower = toText bytes := by
  have hdigit : ∀ n : UInt8, n.toNat < 16 → (digit n).toLower = digit n := by
    have hall : ∀ m : Fin 16, (digit (UInt8.ofNat m)).toLower = digit (UInt8.ofNat m) := by decide
    intro n hn
    have hm := hall ⟨n.toNat, hn⟩
    rwa [UInt8.ofNat_toNat] at hm
  have hchars : (encode bytes).map Char.toLower = encode bytes := by
    rw [encode, List.map_flatMap]
    refine List.flatMap_congr fun b _ => ?_
    have hb := b.toNat_lt
    have hhi : (b / 16).toNat < 16 := by rw [UInt8.toNat_div]; exact Nat.div_lt_of_lt_mul hb
    have hlo : (b % 16).toNat < 16 := by rw [UInt8.toNat_mod]; exact Nat.mod_lt _ (by decide)
    rw [List.map_cons, List.map_cons, hdigit _ hhi, hdigit _ hlo, List.map_nil]
  have hlower : (toText bytes).toLower.toList = (toText bytes).toList.map Char.toLower :=
    String.toList_map
  rw [← String.toList_inj, hlower, toText, String.toList_ofList, hchars]

lemma ofText_toText (bytes : List UInt8) : ofText (toText bytes) = .ok bytes :=
  ofText_eq_ok_iff.mpr (toLower_toText bytes)

end Hex

namespace Root

lemma malformed_of_ofHex {text : String} {f : Failure} (h : Root.ofHex text = .error f) :
    ∃ reason, f = .malformed reason := by
  rw [Root.ofHex] at h
  split at h
  · cases h
  · exact ⟨_, (Except.error.inj h).symm⟩
  · exact ⟨_, (Except.error.inj h).symm⟩

lemma ofHex_eq_ok_iff {text : String} {root : Root} :
    Root.ofHex text = .ok root ↔ text.toLower = root.toHex := by
  rw [Root.toHex, ← Hex.ofText_eq_ok_iff, Root.ofHex]
  cases Hex.ofText text with
  | ok bytes => exact ⟨fun h => congrArg (Except.ok ∘ Root.bytes) (Except.ok.inj h),
      fun h => congrArg (Except.ok ∘ Root.mk) (Except.ok.inj h)⟩
  | error flaw => cases flaw <;> simp

end Root

end Depository
