import Depository.Json.Format
import Depository.Proofs.Json.Numeral

namespace Depository.Json

def Reads {α : Type} (r : Reader α) (text : List Char) (v : α) (rest : List Char) : Prop :=
  r.run text = .ok (v, rest)

lemma ok_bind {ε α β : Type} (a : α) (f : α → Except ε β) : (Except.ok a >>= f) = f a := rfl

section Tokens

variable {α β : Type} {text rest rest' : List Char}

lemma Reads.bind {r : Reader α} {f : α → Reader β} {a : α} {b : β} (hr : Reads r text a rest)
    (hf : Reads (f a) rest b rest') : Reads (r >>= f) text b rest' := by
  rw [Reads, StateT.run_bind, hr]
  exact hf

lemma reads_pure (a : α) (text : List Char) : Reads (pure a) text a text := rfl

lemma reads_get (text : List Char) : Reads get text text text := rfl

lemma reads_ok {x : Except Fault α} {a : α} (h : x = .ok a) (text : List Char) :
    Reads (liftM x) text a text := by
  rw [h]
  rfl

lemma Reads.map {r : Reader α} {a : α} (h : Reads r text a rest) (f : α → β) :
    Reads (f <$> r) text (f a) rest := by
  rw [← bind_pure_comp]
  exact h.bind (reads_pure (f a) rest)

lemma skipSpace_cons {c : Char} (h : isSpace c = false) (cs : List Char) :
    skipSpace (c :: cs) = c :: cs :=
  List.dropWhile_cons_of_neg (by simp [h])

lemma isSpace_of_isDigit {c : Char} (h : c.isDigit = true) : isSpace c = false := by
  by_contra hc
  simp only [isSpace, Bool.not_eq_false, Bool.or_eq_true, decide_eq_true_eq] at hc
  rcases hc with ((rfl | rfl) | rfl) | rfl <;> simp [Char.isDigit] at h

lemma write_append (cs rest : List Char) :
    Literal.write cs ++ rest = '"' :: (cs.flatMap Literal.escape ++ '"' :: rest) := by
  simp [Literal.write]

lemma reads_literal (s : String) (rest : List Char) :
    Reads literal (s.toList.flatMap Literal.escape ++ '"' :: rest) s rest := by
  simp [Reads, literal, Literal.read_flatMap_escape]

lemma reads_quoted (f : String → α) (s : String) (rest : List Char) :
    Reads (literal >>= fun t => pure (f t)) (s.toList.flatMap Literal.escape ++ '"' :: rest) (f s)
      rest :=
  (reads_literal s rest).bind (reads_pure (f s) rest)

lemma reads_head_text (s : String) (rest : List Char) :
    Reads head (Literal.write s.toList ++ rest) (.text s) rest := by
  rw [write_append]
  exact reads_quoted Head.text s rest

lemma reads_numeral (n : UInt64) (h : Halts rest) :
    Reads (numeral false) (Nat.toDigits 10 n.toNat ++ rest) (.number (.natural n)) rest := by
  simp [Reads, numeral, Numeral.read_toDigits n.toNat .endOfValue h, Numeral.value_toDigits,
    ok_bind]

lemma head_of_isDigit {c : Char} (h : c.isDigit = true) (cs : List Char) :
    head.run (c :: cs) = (numeral false).run (c :: cs) := by
  have hne : ∀ d, Char.isDigit d = false → c ≠ d := fun d hd he => by simp [← he, h] at hd
  simp [head, skipSpace_cons (isSpace_of_isDigit h), h, hne]

lemma reads_head_natural (n : UInt64) (h : Halts rest) :
    Reads head (Nat.toDigits 10 n.toNat ++ rest) (.number (.natural n)) rest := by
  have hn := reads_numeral n h
  obtain ⟨d, ds, hdigits, hd, -⟩ := Numeral.toDigits_eq_cons n.toNat
  rw [hdigits, List.cons_append] at hn ⊢
  exact (head_of_isDigit hd _).trans hn

lemma reads_head_object (rest : List Char) : Reads head ('{' :: rest) .object rest := rfl

lemma reads_colon (rest : List Char) : Reads colon (':' :: rest) () rest := rfl

lemma reads_closeObject (rest : List Char) : Reads closeObject ('}' :: rest) () rest := rfl

lemma reads_anotherName_first (s : String) (rest : List Char) :
    Reads (anotherName true) (Literal.write s.toList ++ rest) (some s) rest := by
  rw [write_append]
  exact reads_quoted some s rest

lemma reads_anotherName_next (s : String) (rest : List Char) :
    Reads (anotherName false) (',' :: (Literal.write s.toList ++ rest)) (some s) rest := by
  rw [write_append]
  exact reads_quoted some s rest

lemma reads_anotherName_end (first : Bool) (rest : List Char) :
    Reads (anotherName first) ('}' :: rest) none ('}' :: rest) := rfl

end Tokens

def Head.isWhole : Head → Bool
  | .array | .object => false
  | _ => true

variable {α β : Type}

def Scalar.Returns (s : Scalar α) : Prop :=
  ∀ v : α, ∃ h : Head, h.isWhole = true ∧ s.accept h = .ok v ∧
    ∀ rest, Halts rest → Reads head (s.write v ++ rest) h rest

def Format.Returns (f : Format α) : Prop :=
  ∀ (v : α) (rest : List Char), Halts rest → Reads f.read (f.write v ++ rest) v rest

namespace Scalar

variable {s : Scalar α}

lemma returns_text : text.Returns := fun s =>
  ⟨.text s, rfl, rfl, fun rest _ => reads_head_text s rest⟩

lemma returns_natural (expected : String) : (natural expected).Returns := fun n =>
  ⟨.number (.natural n), rfl, rfl, fun _ hrest => reads_head_natural n hrest⟩

lemma returns_u64 : u64.Returns := returns_natural "u64"

lemma returns_bool : bool.Returns := fun b => by
  refine ⟨.bool b, rfl, rfl, fun rest _ => ?_⟩
  cases b <;> rfl

lemma Returns.imap (h : s.Returns) {into : α → β} {back : β → α} (hb : ∀ v, into (back v) = v) :
    (s.imap into back).Returns := by
  intro v
  obtain ⟨t, hwhole, haccept, hread⟩ := h (back v)
  refine ⟨t, hwhole, ?_, hread⟩
  simp only [Scalar.imap, haccept, Except.map, hb]

lemma Returns.refine (h : s.Returns) {into : α → Except Fault β} {back : β → α}
    (hb : ∀ v, into (back v) = .ok v) : (s.refine into back).Returns := by
  intro v
  obtain ⟨t, hwhole, haccept, hread⟩ := h (back v)
  refine ⟨t, hwhole, ?_, hread⟩
  simp only [Scalar.refine, haccept, ok_bind, hb]

lemma Returns.format (h : s.Returns) : s.format.Returns := by
  intro v rest hrest
  obtain ⟨t, -, haccept, hread⟩ := h v
  exact (hread rest hrest).bind (reads_ok haccept rest)

end Scalar

namespace Format

variable {f : Format α}

def RoundTrips (f : Format α) : Prop :=
  ∀ v, f.decode (f.encode v) = .ok v

lemma decode_of_reads {text : List Char} {v : α} (h : Reads f.read text v []) :
    f.decode (String.ofList text) = .ok v := by
  rw [Reads] at h
  rw [decode, readAll, String.toList_ofList, h, ok_bind]
  rfl

lemma Returns.roundTrips (h : f.Returns) : f.RoundTrips := by
  intro v
  have hread := h v [] .nil
  rw [List.append_nil] at hread
  exact decode_of_reads hread

lemma RoundTrips.injective (h : f.RoundTrips) : Function.Injective f.encode := by
  intro v w hvw
  have hdecode := congrArg f.decode hvw
  rw [h v, h w] at hdecode
  exact Except.ok.inj hdecode

end Format

end Depository.Json
