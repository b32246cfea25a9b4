import FlowLines.Text.Blank
import FlowLines.Text.Digits
import Mathlib.Algebra.Ring.Nat

/-! Numbers in digits read back. -/

namespace FlowLines.Text

theorem ofDigits_eq (s : List Char) : ofDigits s = Nat.ofDigitChars 10 s 0 := rfl

theorem ofDigits_decimal (n : Nat) : ofDigits (decimal n) = n := Nat.ofDigitChars_ten_toDigits

theorem ofDigits_append (s t : List Char) :
    ofDigits (s ++ t) = 10 ^ t.length * ofDigits s + ofDigits t := by
  rw [ofDigits_eq, Nat.ofDigitChars_append, Nat.ofDigitChars_eq_ofDigitChars_zero]
  rfl

theorem isDigit_of_mem_decimal {c : Char} {n : Nat} (h : c ∈ decimal n) : isDigit c :=
  Nat.isDigit_of_mem_toDigits (by decide) (by decide) h

theorem decimal_ne_nil (n : Nat) : decimal n ≠ [] := Nat.toDigits_ne_nil

theorem length_decimal_le_iff {n k : Nat} (h : 0 < k) : (decimal n).length ≤ k ↔ n < 10 ^ k :=
  Nat.length_toDigits_le_iff (by decide) h

theorem length_padLeft {w : Nat} {s : List Char} (h : s.length ≤ w) : (padLeft w s).length = w := by
  rw [padLeft, List.length_append, List.length_replicate]
  omega

theorem isDigit_of_mem_padLeft {c : Char} {w : Nat} {s : List Char} (hs : ∀ c ∈ s, isDigit c)
    (h : c ∈ padLeft w s) : isDigit c := by
  rcases List.mem_append.1 h with h | h
  · rw [List.eq_of_mem_replicate h]
    rfl
  · exact hs c h

theorem ofDigits_padLeft (w : Nat) (s : List Char) : ofDigits (padLeft w s) = ofDigits s := by
  rw [padLeft, ofDigits_eq, Nat.ofDigitChars_append, Nat.ofDigitChars_replicate_zero]
  rfl

theorem decimal_padded_ne_nil (w n : Nat) : padLeft w (decimal n) ≠ [] := by
  intro h
  exact decimal_ne_nil n (List.append_eq_nil_iff.1 h).2

theorem isDigit_of_mem_padded {c : Char} {w n : Nat} (h : c ∈ padLeft w (decimal n)) : isDigit c :=
  isDigit_of_mem_padLeft (fun _ => isDigit_of_mem_decimal) h

theorem length_padded {w n : Nat} (hw : 0 < w) (h : n < 10 ^ w) :
    (padLeft w (decimal n)).length = w :=
  length_padLeft ((length_decimal_le_iff hw).2 h)

theorem ofDigits_padded (w n : Nat) : ofDigits (padLeft w (decimal n)) = n := by
  rw [ofDigits_padLeft, ofDigits_decimal]

theorem toNat_of_isDigit {c : Char} (h : isDigit c) : 48 ≤ c.toNat ∧ c.toNat ≤ 57 :=
  Char.isDigit_iff_toNat.1 h

theorem ne_of_isDigit {c d : Char} (hc : isDigit c) (hd : isDigit d = false) : c ≠ d := by
  intro h
  rw [h, hd] at hc
  cases hc

theorem digitValue_lt {c : Char} (h : isDigit c) : digitValue c < 10 := by
  have hc := toNat_of_isDigit h
  have hz : '0'.toNat = 48 := rfl
  rw [digitValue, hz]
  omega

theorem ofDigits_lt {s : List Char} (h : ∀ c ∈ s, isDigit c) : ofDigits s < 10 ^ s.length := by
  induction s with
  | nil => exact Nat.one_pos
  | cons c r ih =>
    have hc := digitValue_lt (h c List.mem_cons_self)
    have hr := ih fun d hd => h d (List.mem_cons_of_mem c hd)
    have hone : ofDigits [c] = digitValue c := Nat.zero_add _
    have hcons : ofDigits (c :: r) = 10 ^ r.length * digitValue c + ofDigits r := by
      rw [← List.singleton_append, ofDigits_append, hone]
    rw [hcons, List.length_cons, Nat.pow_succ]
    have hle : 10 ^ r.length * digitValue c ≤ 10 ^ r.length * 9 :=
      Nat.mul_le_mul_left _ (Nat.le_of_lt_succ hc)
    omega

theorem eq_nil_of_decimal_eq_cons {n : Nat} {r : List Char} (h : decimal n = '0' :: r) :
    r = [] := by
  cases r with
  | nil => rfl
  | cons c r =>
    have hdigits (d : Char) (hd : d ∈ c :: r) : isDigit d := by
      apply isDigit_of_mem_decimal (n := n)
      rw [h]
      exact List.mem_cons_of_mem '0' hd
    have hn : n = ofDigits (c :: r) := by
      rw [← ofDigits_decimal n, h]
      rfl
    have hlen : (decimal n).length ≤ (c :: r).length :=
      (length_decimal_le_iff (List.length_pos_of_mem List.mem_cons_self)).2
        (hn ▸ ofDigits_lt hdigits)
    rw [h] at hlen
    exact absurd hlen (Nat.not_succ_le_self _)

theorem exists_decimal_eq_cons (n : Nat) : ∃ c s, decimal n = c :: s ∧ isDigit c ∧
    (∀ d ∈ s, isDigit d) ∧ (c = '0' → s = []) := by
  have hdigits (d : Char) (hd : d ∈ decimal n) := isDigit_of_mem_decimal hd
  have hzero {r : List Char} := eq_nil_of_decimal_eq_cons (n := n) (r := r)
  cases hs : decimal n with
  | nil => exact absurd hs (decimal_ne_nil n)
  | cons c s =>
    rw [hs] at hdigits hzero
    refine ⟨c, s, rfl, hdigits c List.mem_cons_self, ?_, ?_⟩
    · intro d hd
      exact hdigits d (List.mem_cons_of_mem c hd)
    · intro h
      exact hzero (by rw [h])

theorem isBlank_of_isDigit {c : Char} (h : isDigit c) : isBlank c = false := by
  have hc := toNat_of_isDigit h
  simp only [isBlank, Bool.or_eq_false_iff, Bool.and_eq_false_iff, decide_eq_false_iff_not,
    beq_eq_false_iff_ne]
  omega

theorem isDigit_of_append_eq_cons {s rest r : List Char} {c : Char} (hs : ∀ d ∈ s, isDigit d)
    (hne : s ≠ []) (h : s ++ rest = c :: r) : isDigit c := by
  cases s with
  | nil => exact absurd rfl hne
  | cons d s =>
    cases h
    exact hs c List.mem_cons_self

theorem isDigit_of_decimal_append_eq_cons {n : Nat} {rest r : List Char} {c : Char}
    (h : decimal n ++ rest = c :: r) : isDigit c :=
  isDigit_of_append_eq_cons (fun _ => isDigit_of_mem_decimal) (decimal_ne_nil n) h

theorem trimStart_of_digits {s : List Char} (hs : ∀ c ∈ s, isDigit c) (hne : s ≠ [])
    (rest : List Char) : trimStart (s ++ rest) = s ++ rest := by
  cases s with
  | nil => exact absurd rfl hne
  | cons c r =>
    have hc := isBlank_of_isDigit (hs c List.mem_cons_self)
    rw [List.cons_append, trimStart, List.dropWhile_cons_of_neg]
    rw [hc]
    exact Bool.false_ne_true

end FlowLines.Text
