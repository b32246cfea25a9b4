import FlowLines.Text.Utf8

namespace FlowLines.Text.Utf8

theorem scalar_bounds (c : Char) : c.toNat < 0xD800 ∨ 0xDFFF < c.toNat ∧ c.toNat < 0x110000 := by
  have h := c.valid
  simp only [UInt32.isValidChar, Nat.isValidChar] at h
  exact h

theorem toNat_ofNat_of_scalar {n : Nat} (h : n < 0xD800 ∨ 0xDFFF < n ∧ n < 0x110000) :
    (Char.ofNat n).toNat = n := by
  rw [Char.ofNat, dif_pos h]
  rfl

theorem isTail_iff (b : UInt8) : isTail b ↔ 0x80 ≤ b.toNat ∧ b.toNat ≤ 0xBF := by
  simp [isTail, UInt8.le_iff_toNat_le]

theorem isSecond_iff (a b : UInt8) :
    isSecond a b ↔ 0x80 ≤ b.toNat ∧ b.toNat ≤ 0xBF ∧ (a.toNat = 0xE0 → 0xA0 ≤ b.toNat) ∧
      (a.toNat = 0xED → b.toNat ≤ 0x9F) ∧ (a.toNat = 0xF0 → 0x90 ≤ b.toNat) ∧
      (a.toNat = 0xF4 → b.toNat ≤ 0x8F) := by
  unfold isSecond isTail
  simp only [← UInt8.toNat_inj, UInt8.le_iff_toNat_le, UInt8.reduceToNat]
  grind

theorem decodeFrom_cons_one {a : UInt8} (h : a < 0x80) (i : Nat) (done : List Char)
    (r : List UInt8) :
    decodeFrom i done (a :: r) = decodeFrom (i + 1) (Char.ofNat a.toNat :: done) r := by
  rw [decodeFrom.eq_def]
  simp [h]

theorem decodeFrom_cons_two {a b : UInt8} (ha : 0xC2 ≤ a ∧ a ≤ 0xDF) (hb : isTail b) (i : Nat)
    (done : List Char) (r : List UInt8) :
    decodeFrom i done (a :: b :: r) =
      decodeFrom (i + 2) (Char.ofNat (a.toNat % 0x20 * 0x40 + tailBits b) :: done) r := by
  have : ¬ a < 0x80 := by grind
  rw [decodeFrom.eq_def]
  simp [this, ha, hb]

theorem decodeFrom_cons_three {a b c : UInt8} (ha : 0xE0 ≤ a ∧ a ≤ 0xEF) (hb : isSecond a b)
    (hc : isTail c) (i : Nat) (done : List Char) (r : List UInt8) :
    decodeFrom i done (a :: b :: c :: r) =
      decodeFrom (i + 3)
        (Char.ofNat (a.toNat % 0x10 * 0x1000 + tailBits b * 0x40 + tailBits c) :: done) r := by
  have h : ¬ a < 0x80 := by grind
  have h' : ¬ (0xC2 ≤ a ∧ a ≤ 0xDF) := by grind
  rw [decodeFrom.eq_def]
  simp [h, h', ha, hb, hc]

theorem decodeFrom_cons_four {a b c d : UInt8} (ha : 0xF0 ≤ a ∧ a ≤ 0xF4) (hb : isSecond a b)
    (hc : isTail c) (hd : isTail d) (i : Nat) (done : List Char) (r : List UInt8) :
    decodeFrom i done (a :: b :: c :: d :: r) =
      decodeFrom (i + 4)
        (Char.ofNat (a.toNat % 0x08 * 0x40000 + tailBits b * 0x1000 + tailBits c * 0x40 +
          tailBits d) :: done) r := by
  have h : ¬ a < 0x80 := by grind
  have h' : ¬ (0xC2 ≤ a ∧ a ≤ 0xDF) := by grind
  have h₃ : ¬ (0xE0 ≤ a ∧ a ≤ 0xEF) := by grind
  rw [decodeFrom.eq_def]
  simp [h, h', h₃, ha, hb, hc, hd]

theorem decodeFrom_encodeChar (c : Char) (i : Nat) (done : List Char) (r : List UInt8) :
    decodeFrom i done (String.utf8EncodeChar c ++ r) =
      decodeFrom (i + c.utf8Size) (c :: done) r := by
  have hv := scalar_bounds c
  have hc : Char.ofNat c.toNat = c := Char.ofNat_toNat c
  rw [← String.length_utf8EncodeChar]
  unfold String.utf8EncodeChar
  simp only [Char.toNat] at hv hc ⊢
  generalize c.val.toNat = n at *
  split
  · rw [List.singleton_append, decodeFrom_cons_one]
    · have : (UInt8.ofNat n).toNat = n := by simp; omega
      rw [this, hc]
      rfl
    · simp [UInt8.lt_iff_toNat_lt]; omega
  split
  · simp only [List.cons_append, List.nil_append]
    rw [decodeFrom_cons_two]
    · have : (UInt8.ofNat (n / 64 % 0x20 + 0xC0)).toNat % 0x20 * 0x40 +
          tailBits (UInt8.ofNat (n % 0x40 + 0x80)) = n := by
        simp [tailBits]; omega
      rw [this, hc]
      rfl
    · simp [UInt8.le_iff_toNat_le]; omega
    · simp [isTail_iff]; omega
  split
  · simp only [List.cons_append, List.nil_append]
    rw [decodeFrom_cons_three]
    · have : (UInt8.ofNat (n / 4096 % 0x10 + 0xE0)).toNat % 0x10 * 0x1000 +
          tailBits (UInt8.ofNat (n / 64 % 0x40 + 0x80)) * 0x40 +
          tailBits (UInt8.ofNat (n % 0x40 + 0x80)) = n := by
        simp [tailBits]; omega
      rw [this, hc]
      rfl
    · simp [UInt8.le_iff_toNat_le]; omega
    · simp [isSecond_iff]; omega
    · simp [isTail_iff]; omega
  · simp only [List.cons_append, List.nil_append]
    rw [decodeFrom_cons_four]
    · have : (UInt8.ofNat (n / 262144 % 0x08 + 0xF0)).toNat % 0x08 * 0x40000 +
          tailBits (UInt8.ofNat (n / 4096 % 0x40 + 0x80)) * 0x1000 +
          tailBits (UInt8.ofNat (n / 64 % 0x40 + 0x80)) * 0x40 +
          tailBits (UInt8.ofNat (n % 0x40 + 0x80)) = n := by
        simp [tailBits]; omega
      rw [this, hc]
      rfl
    · simp [UInt8.le_iff_toNat_le]; omega
    · simp [isSecond_iff]; omega
    · simp [isTail_iff]; omega
    · simp [isTail_iff]; omega

theorem decodeFrom_encode (s : List Char) (i : Nat) (done : List Char) :
    decodeFrom i done (encode s) = .ok (done.reverse ++ s) := by
  induction s generalizing i done with
  | nil => simp [encode, decodeFrom]
  | cons c s ih =>
    rw [encode, List.flatMap_cons, decodeFrom_encodeChar]
    simpa [encode] using ih (i + c.utf8Size) (c :: done)

theorem encodeChar_one {a : UInt8} (h : a < 0x80) :
    String.utf8EncodeChar (Char.ofNat a.toNat) = [a] := by
  simp only [UInt8.lt_iff_toNat_lt, UInt8.reduceToNat] at h
  have hn := toNat_ofNat_of_scalar (n := a.toNat) (by omega)
  rw [Char.toNat] at hn
  unfold String.utf8EncodeChar
  simp only [hn]
  rw [if_pos (by omega), UInt8.ofNat_toNat]

theorem encodeChar_two {a b : UInt8} (ha : 0xC2 ≤ a ∧ a ≤ 0xDF) (hb : isTail b) :
    String.utf8EncodeChar (Char.ofNat (a.toNat % 0x20 * 0x40 + tailBits b)) = [a, b] := by
  simp only [UInt8.le_iff_toNat_le, UInt8.reduceToNat] at ha
  rw [isTail_iff] at hb
  have hn := toNat_ofNat_of_scalar (n := a.toNat % 0x20 * 0x40 + tailBits b)
    (by unfold tailBits; omega)
  rw [Char.toNat] at hn
  unfold String.utf8EncodeChar
  simp only [hn]
  unfold tailBits
  rw [if_neg (by omega), if_pos (by omega)]
  simp only [List.cons.injEq, ← UInt8.toNat_inj, UInt8.toNat_ofNat', and_true]
  omega

theorem encodeChar_three {a b c : UInt8} (ha : 0xE0 ≤ a ∧ a ≤ 0xEF) (hb : isSecond a b)
    (hc : isTail c) :
    String.utf8EncodeChar
      (Char.ofNat (a.toNat % 0x10 * 0x1000 + tailBits b * 0x40 + tailBits c)) = [a, b, c] := by
  simp only [UInt8.le_iff_toNat_le, UInt8.reduceToNat] at ha
  rw [isSecond_iff] at hb
  rw [isTail_iff] at hc
  have hn := toNat_ofNat_of_scalar
    (n := a.toNat % 0x10 * 0x1000 + tailBits b * 0x40 + tailBits c) (by unfold tailBits; omega)
  rw [Char.toNat] at hn
  unfold String.utf8EncodeChar
  simp only [hn]
  unfold tailBits
  rw [if_neg (by omega), if_neg (by omega), if_pos (by omega)]
  simp only [List.cons.injEq, ← UInt8.toNat_inj, UInt8.toNat_ofNat', and_true]
  omega

theorem encodeChar_four {a b c d : UInt8} (ha : 0xF0 ≤ a ∧ a ≤ 0xF4) (hb : isSecond a b)
    (hc : isTail c) (hd : isTail d) :
    String.utf8EncodeChar
      (Char.ofNat (a.toNat % 0x08 * 0x40000 + tailBits b * 0x1000 + tailBits c * 0x40 +
        tailBits d)) = [a, b, c, d] := by
  simp only [UInt8.le_iff_toNat_le, UInt8.reduceToNat] at ha
  rw [isSecond_iff] at hb
  rw [isTail_iff] at hc hd
  have hn := toNat_ofNat_of_scalar
    (n := a.toNat % 0x08 * 0x40000 + tailBits b * 0x1000 + tailBits c * 0x40 + tailBits d)
    (by unfold tailBits; omega)
  rw [Char.toNat] at hn
  unfold String.utf8EncodeChar
  simp only [hn]
  unfold tailBits
  rw [if_neg (by omega), if_neg (by omega), if_neg (by omega)]
  simp only [List.cons.injEq, ← UInt8.toNat_inj, UInt8.toNat_ofNat', and_true]
  omega

theorem encode_of_decodeFrom {i : Nat} {done s : List Char} {bytes : List UInt8}
    (h : decodeFrom i done bytes = .ok s) : encode s = encode done.reverse ++ bytes := by
  have push (c : Char) (done : List Char) :
      encode (c :: done).reverse = encode done.reverse ++ String.utf8EncodeChar c := by
    simp [encode]
  fun_induction decodeFrom i done bytes with
  | case1 i done =>
    cases h
    simp
  | case2 i done a r ha ih =>
    rw [ih h, push, encodeChar_one ha, List.append_assoc]
    rfl
  | case5 i done a _ ha b r hb ih =>
    rw [ih h, push, encodeChar_two (by simpa using ha) (by simpa using hb), List.append_assoc]
    rfl
  | case10 i done a _ _ ha b hb c r hc ih =>
    rw [ih h, push, encodeChar_three (by simpa using ha) (by simpa using hb) (by simpa using hc),
      List.append_assoc]
    rfl
  | case17 i done a _ _ _ ha b hb c hc d r hd ih =>
    rw [ih h, push, encodeChar_four (by simpa using ha) (by simpa using hb) (by simpa using hc)
      (by simpa using hd), List.append_assoc]
    rfl
  | _ => contradiction

theorem decode_encode (s : List Char) : decode (encode s) = .ok s := decodeFrom_encode s 0 []

/-- Bytes are UTF-8 exactly when a text spells them. -/
theorem decode_eq_ok_iff {bytes : List UInt8} {s : List Char} :
    decode bytes = .ok s ↔ bytes = encode s := by
  constructor
  · intro h
    simpa [encode] using (encode_of_decodeFrom h).symm
  · rintro rfl
    exact decode_encode s

end FlowLines.Text.Utf8
