import FlowLines.Json.Text
import FlowLines.Proofs.Except

/-! A written string is read back, and passed over, whole. -/

namespace FlowLines.Json

open FlowLines.Text (hex padLeft ofBase?)

theorem readHex_control {n : Nat} (h : n < 0x20) (rest : List Char) :
    readHex (padLeft 4 (hex n) ++ rest) = .ok (n, rest) := by
  have hlen : ∀ n < 0x20, (padLeft 4 (hex n)).length = 4 := by decide
  have hval : ∀ n < 0x20, ofBase? 16 (padLeft 4 (hex n)) = some n := by decide
  have htake : (padLeft 4 (hex n) ++ rest).take 4 = padLeft 4 (hex n) := List.take_left' (hlen n h)
  have hdrop : (padLeft 4 (hex n) ++ rest).drop 4 = rest := List.drop_left' (hlen n h)
  simp only [readHex, htake, hdrop, hlen n h, hval n h, if_true]

/-- A character stands for itself, or is written behind a backslash: by a letter of its own, or
by its number if it is another control character. -/
theorem writeChar_cases (c : Char) :
    (c ≠ '"' ∧ c ≠ '\\' ∧ ¬ c.toNat < 0x20 ∧ writeChar c = [c]) ∨
      (∃ d, d ≠ 'u' ∧ simpleEscape? d = some c ∧ writeChar c = ['\\', d]) ∨
      (c.toNat < 0x20 ∧ writeChar c = '\\' :: 'u' :: padLeft 4 (hex c.toNat)) := by
  unfold writeChar
  split
  · next h => exact .inr (.inl ⟨'"', by decide, by rw [h]; rfl, rfl⟩)
  split
  · next h => exact .inr (.inl ⟨'\\', by decide, by rw [h]; rfl, rfl⟩)
  split
  · next h => exact .inr (.inl ⟨'b', by decide, by rw [h]; rfl, rfl⟩)
  split
  · next h => exact .inr (.inl ⟨'f', by decide, by rw [h]; rfl, rfl⟩)
  split
  · next h => exact .inr (.inl ⟨'n', by decide, by rw [h]; rfl, rfl⟩)
  split
  · next h => exact .inr (.inl ⟨'r', by decide, by rw [h]; rfl, rfl⟩)
  split
  · next h => exact .inr (.inl ⟨'t', by decide, by rw [h]; rfl, rfl⟩)
  split
  · next h => exact .inr (.inr ⟨h, rfl⟩)
  · next hq hb _ _ _ _ _ hc => exact .inl ⟨hq, hb, hc, rfl⟩

theorem readUnicodeEscape_control {c : Char} (h : c.toNat < 0x20) (rest : List Char) :
    readUnicodeEscape (padLeft 4 (hex c.toNat) ++ rest) = .ok (c, rest) := by
  have hlow : isLowSurrogate c.toNat = false := by
    simp only [isLowSurrogate, Bool.and_eq_false_iff, decide_eq_false_iff_not]
    omega
  have hhigh : isHighSurrogate c.toNat = false := by
    simp only [isHighSurrogate, Bool.and_eq_false_iff, decide_eq_false_iff_not]
    omega
  simp [readUnicodeEscape, readHex_control h, hlow, hhigh]

theorem readStringLoop_writeChar (c : Char) (b : Char) (bound done rest : List Char) :
    readStringLoop (b :: bound) done (writeChar c ++ rest) =
      readStringLoop bound (c :: done) rest := by
  rcases writeChar_cases c with ⟨hq, hb, hc, hw⟩ | ⟨d, hu, hd, hw⟩ | ⟨hc, hw⟩
  · rw [hw, List.singleton_append, readStringLoop, if_neg hq, if_neg hb, if_neg hc]
  · have he : readEscape (d :: rest) = .ok (c, rest) := by
      rw [readEscape, if_neg hu, hd]
    rw [hw]
    simp [readStringLoop, he]
  · have he : readEscape ('u' :: (padLeft 4 (hex c.toNat) ++ rest)) = .ok (c, rest) := by
      rw [readEscape, if_pos rfl, readUnicodeEscape_control hc]
    rw [hw]
    simp [readStringLoop, he]

theorem skipStringLoop_writeChar (c : Char) (b : Char) (bound rest : List Char) :
    skipStringLoop (b :: bound) (writeChar c ++ rest) = skipStringLoop bound rest := by
  rcases writeChar_cases c with ⟨hq, hb, hc, hw⟩ | ⟨d, hu, hd, hw⟩ | ⟨hc, hw⟩
  · rw [hw, List.singleton_append, skipStringLoop, if_neg hq, if_neg hb, if_neg hc]
  · have he : skipEscape (d :: rest) = .ok rest := by
      rw [skipEscape, if_neg hu, hd]
      rfl
    rw [hw]
    simp [skipStringLoop, he]
  · have he : skipEscape ('u' :: (padLeft 4 (hex c.toNat) ++ rest)) = .ok rest := by
      rw [skipEscape, if_pos rfl, readHex_control hc]
      rfl
    rw [hw]
    simp [skipStringLoop, he]

theorem readStringLoop_write (s rest : List Char) :
    ∀ bound done : List Char, s.length < bound.length →
      readStringLoop bound done (s.flatMap writeChar ++ '"' :: rest) =
        .ok (done.reverse ++ s, rest) := by
  induction s with
  | nil =>
    intro bound done h
    cases bound with
    | nil => cases h
    | cons b bound => simp [readStringLoop]
  | cons c s ih =>
    intro bound done h
    cases bound with
    | nil => cases h
    | cons b bound =>
      rw [List.flatMap_cons, List.append_assoc, readStringLoop_writeChar,
        ih bound (c :: done) (Nat.lt_of_succ_lt_succ h), List.reverse_cons, List.append_assoc,
        List.singleton_append]

theorem skipStringLoop_write (s rest : List Char) :
    ∀ bound : List Char, s.length < bound.length →
      skipStringLoop bound (s.flatMap writeChar ++ '"' :: rest) = .ok rest := by
  induction s with
  | nil =>
    intro bound h
    cases bound with
    | nil => cases h
    | cons b bound => simp [skipStringLoop]
  | cons c s ih =>
    intro bound h
    cases bound with
    | nil => cases h
    | cons b bound =>
      rw [List.flatMap_cons, List.append_assoc, skipStringLoop_writeChar,
        ih bound (Nat.lt_of_succ_lt_succ h)]

theorem writeChar_ne_nil (c : Char) : writeChar c ≠ [] := by
  rcases writeChar_cases c with ⟨-, -, -, hw⟩ | ⟨d, -, -, hw⟩ | ⟨-, hw⟩ <;> rw [hw] <;> simp

theorem length_le_flatMap_writeChar (s : List Char) : s.length ≤ (s.flatMap writeChar).length := by
  induction s with
  | nil => exact Nat.le_refl 0
  | cons c s ih =>
    have hc := List.length_pos_iff.2 (writeChar_ne_nil c)
    rw [List.flatMap_cons, List.length_append, List.length_cons]
    omega

theorem readString_write (s rest : List Char) :
    readString (s.flatMap writeChar ++ '"' :: rest) = .ok (s, rest) := by
  have hle := length_le_flatMap_writeChar s
  apply readStringLoop_write
  rw [List.length_append, List.length_cons]
  omega

theorem skipString_write (s rest : List Char) :
    skipString (s.flatMap writeChar ++ '"' :: rest) = .ok rest := by
  have hle := length_le_flatMap_writeChar s
  apply skipStringLoop_write
  rw [List.length_append, List.length_cons]
  omega

end FlowLines.Json
