import Depository.Json.Literal
import Mathlib.Data.List.Basic

namespace Depository.Json.Literal

lemma unit?_escape {n : Nat} (h : n < 32) :
    unit? '0' '0' (Nat.digitChar (n / 16)) (Nat.digitChar (n % 16)) = some n := by
  revert n
  decide

lemma read_unit {a b c d : Char} {n : Nat} (h : unit? a b c d = some n) (hn : n < 0xD800)
    (cs : List Char) :
    read ('\\' :: 'u' :: a :: b :: c :: d :: cs) = push (Char.ofNat n) (read cs) := by
  have ht : isTrailing n = false := by simp [isTrailing]; omega
  have hl : isLeading n = false := by simp [isLeading]; omega
  simp [read, h, ht, hl]

lemma read_plain {c : Char} (hq : c ≠ '"') (hb : c ≠ '\\') (hc : ¬ c < ' ') (cs : List Char) :
    read (c :: cs) = push c (read cs) := by
  simp [read, hb, hc]

lemma read_escape (c : Char) (cs : List Char) : read (escape c ++ cs) = push c (read cs) := by
  rw [escape]
  split_ifs with h1 h2 h3 h4 h5 h6 h7 h8
  all_goals try subst c
  · simp [read, short?]
  · simp [read, short?]
  · simp [read, short?]
  · simp [read, short?]
  · simp [read, short?]
  · simp [read, short?]
  · simp [read, short?]
  · have hn : c.toNat < 32 := h8
    have hread := read_unit (unit?_escape hn) (by omega) cs
    rw [Char.ofNat_toNat] at hread
    exact hread
  · exact read_plain h1 h2 h8 cs

lemma read_flatMap_escape (cs rest : List Char) :
    read (cs.flatMap escape ++ '"' :: rest) = .ok (cs, rest) := by
  induction cs with
  | nil => rfl
  | cons c cs ih =>
    rw [List.flatMap_cons, List.append_assoc, read_escape, ih]
    rfl

lemma write_append_inj {cs ds xs ys : List Char} (h : write cs ++ xs = write ds ++ ys) :
    cs = ds ∧ xs = ys := by
  have htail : cs.flatMap escape ++ '"' :: xs = ds.flatMap escape ++ '"' :: ys := by
    simpa [write] using h
  have hread := congrArg read htail
  rw [read_flatMap_escape, read_flatMap_escape] at hread
  simpa using hread

end Depository.Json.Literal
