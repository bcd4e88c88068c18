import Mathlib.Tactic.Lemma
import JavaAtlas.Text.Integer
import JavaAtlas.Text.Utf8

/-!
# Numbers and text written and read again

The digits of a number are read as that number, and the bytes of a text as that text as long as it
holds no carriage return, which would be read as a line feed. A text that is joined from others
has the characters of these and of what is put between them.
-/

namespace JavaAtlas

namespace Text

/-! ### Digits -/

lemma digitValue?_of_isDigit {c : Char} (h : c.isDigit = true) :
    digitValue? c = some (c.toNat - 48) := by
  have hrange : c.toNat < 0x80 := by
    simp only [Char.isDigit, Bool.and_eq_true, decide_eq_true_eq, ge_iff_le] at h
    have hle : c.toNat ≤ 57 := h.2
    omega
  simp [digitValue?, hrange, h]

lemma digitsValue_eq_ofDigitChars {digits : List Char} (h : ∀ c ∈ digits, c.isDigit = true) :
    digitsValue digits = Nat.ofDigitChars 10 digits 0 := by
  have hfold : ∀ n, digits.foldl (fun n c => 10 * n + (digitValue? c).getD 0) n =
      digits.foldl (fun n c => 10 * n + (c.toNat - 48)) n := by
    induction digits with
    | nil => simp
    | cons c rest ih =>
      intro n
      have hc := digitValue?_of_isDigit (h c List.mem_cons_self)
      simp only [List.foldl_cons, hc, Option.getD_some]
      exact ih (fun d hd => h d (List.mem_cons_of_mem _ hd)) _
  exact hfold 0

lemma isDigit_of_mem_toDigits {n : Nat} {c : Char} (h : c ∈ Nat.toDigits 10 n) :
    c.isDigit = true :=
  Nat.isDigit_of_mem_toDigits (by decide) (by decide) h

lemma digitsValue_toDigits (n : Nat) : digitsValue (Nat.toDigits 10 n) = n := by
  rw [digitsValue_eq_ofDigitChars fun c hc => isDigit_of_mem_toDigits hc]
  exact Nat.ofDigitChars_ten_toDigits

/-- Only the number zero is written with a zero in front. -/
lemma toDigits_head (n : Nat) :
    ∃ c rest, Nat.toDigits 10 n = c :: rest ∧ (c = '0' → rest = []) := by
  induction n using Nat.base_induction 10 (by decide) with
  | single m hm =>
    exact ⟨m.digitChar, [], Nat.toDigits_of_lt_base hm, fun _ => rfl⟩
  | digit m k hk hm ih =>
    obtain ⟨c, rest, heq, hzero⟩ := ih
    refine ⟨c, rest ++ Nat.toDigits 10 k, ?_, ?_⟩
    · rw [← Nat.toDigits_append_toDigits (by decide) hm hk, heq, List.cons_append]
    · -- a number in front of a digit is not zero, so it does not begin with a zero
      intro hc
      have hm0 : m = 0 := by
        rw [← digitsValue_toDigits m, heq, hzero hc, hc]
        decide
      omega

/-! ### Bytes -/

lemma unifyFrom_of_not_mem {s : List Char} (h : '\r' ∉ s) (done : List Char) :
    unifyFrom done s = done.reverse ++ s := by
  induction s generalizing done with
  | nil => simp [unifyFrom]
  | cons c rest ih =>
    rw [List.mem_cons, not_or] at h
    rw [unifyFrom, ih h.2]
    · simp
    · exact fun _ hc => absurd hc.symm h.1
    · exact fun hc => absurd hc.symm h.1

lemma fromUTF8?_toUTF8 (s : String) : String.fromUTF8? s.toUTF8 = some s := by
  rw [String.fromUTF8?, String.toUTF8_eq_toByteArray, dif_pos s.isValidUTF8]
  rfl

lemma decodeStrict?_toUTF8 {s : String} (h : '\r' ∉ s.toList) :
    decodeStrict? s.toUTF8 = some s.toList := by
  rw [decodeStrict?, fromUTF8?_toUTF8, Option.map_some, unifyLineEnds, unifyFrom_of_not_mem h]
  rfl

lemma decodeLossy_toUTF8 {s : String} (h : '\r' ∉ s.toList) :
    decodeLossy s.toUTF8 = s.toList := by
  rw [decodeLossy, fromUTF8?_toUTF8, unifyLineEnds, unifyFrom_of_not_mem h]
  rfl

/-! ### Joined texts -/

lemma forall_mem_intercalate {P : Char → Prop} {sep : List Char} {ts : List (List Char)}
    (hsep : ∀ c ∈ sep, P c) (hts : ∀ t ∈ ts, ∀ c ∈ t, P c) : ∀ c ∈ sep.intercalate ts, P c := by
  induction ts with
  | nil => simp [List.intercalate]
  | cons t ts ih =>
    have ht := hts t List.mem_cons_self
    have hrest := ih fun s hs => hts s (List.mem_cons_of_mem _ hs)
    by_cases hnil : ts = []
    · simpa [hnil, List.intercalate] using ht
    · rw [List.intercalate_cons_of_ne_nil hnil]
      intro c hc
      rcases List.mem_append.mp hc with hc | hc
      · rcases List.mem_append.mp hc with hc | hc
        · exact ht c hc
        · exact hsep c hc
      · exact hrest c hc

lemma mem_intercalate_of_mem {sep t : List Char} {ts : List (List Char)} {c : Char} (ht : t ∈ ts)
    (hc : c ∈ t) : c ∈ sep.intercalate ts := by
  induction ts with
  | nil => cases ht
  | cons s ts ih =>
    by_cases hnil : ts = []
    · subst hnil
      rw [List.mem_singleton.mp ht] at hc
      simpa [List.intercalate] using hc
    · rw [List.intercalate_cons_of_ne_nil hnil]
      rcases List.mem_cons.mp ht with rfl | ht
      · simp [hc]
      · exact List.mem_append_right _ (ih ht)

end Text

end JavaAtlas
