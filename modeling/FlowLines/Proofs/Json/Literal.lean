import FlowLines.Proofs.Json.Grammar

/-! Strings are read, and passed over, as the grammar has them. -/

namespace FlowLines.Json

open FlowLines.Text (ofBase?)

theorem readHex_digits {digits : List Char} {n : Nat}
    (h : digits.length = 4 ∧ ofBase? 16 digits = some n) (rest : List Char) :
    readHex (digits ++ rest) = .ok (n, rest) := by
  have htake : (digits ++ rest).take 4 = digits := List.take_left' h.1
  have hdrop : (digits ++ rest).drop 4 = rest := List.drop_left' h.1
  simp only [readHex, htake, hdrop, h.1, h.2, if_true]

theorem readHex_ok {s r : List Char} {n : Nat} (h : readHex s = .ok (n, r)) :
    ∃ digits, s = digits ++ r ∧ digits.length = 4 ∧ ofBase? 16 digits = some n := by
  unfold readHex at h
  dsimp only at h
  split at h
  · next hn =>
    cases h
    split at hn
    · next hlength => exact ⟨s.take 4, (List.take_append_drop 4 s).symm, hlength, hn⟩
    · cases hn
  · split at h <;> cases h

namespace Literal

/-- A text as a string with no escapes; what has to be escaped is left out. -/
def ofString (s : String) : Literal :=
  s.toList.filterMap fun c =>
    if h : c ≠ '"' ∧ c ≠ '\\' ∧ ¬ c.toNat < 0x20 then some (.plain c h) else none

@[simp] theorem body_nil : body [] = [] := rfl

@[simp] theorem body_cons (p : Piece) (l : Literal) : body (p :: l) = p.write ++ body l := rfl

theorem body_append (l l' : Literal) : body (l ++ l') = body l ++ body l' := List.flatMap_append

end Literal

open Literal

theorem readUnicodeEscape_half {digits : List Char} {n : Nat}
    (h : digits.length = 4 ∧ ofBase? 16 digits = some n) (hlow : isLowSurrogate n = false)
    (hhigh : isHighSurrogate n = true) {l : Literal} (hl : ∀ d m hm l', l ≠ .unit d m hm :: l')
    (rest : List Char) :
    (readUnicodeEscape (digits ++ (body l ++ '"' :: rest))).toOption = none := by
  simp only [readUnicodeEscape, readHex_digits h, ok_bind, hlow, hhigh, Bool.not_true,
    Bool.false_eq_true, if_false]
  cases l with
  | nil => rfl
  | cons p l =>
    cases p with
    | plain c hc =>
      simp only [body_cons, Piece.write, List.cons_append, List.nil_append]
      split <;> simp_all
    | letter c d hc =>
      have hu : c ≠ 'u' := by
        rintro rfl
        cases hc
      simp only [body_cons, Piece.write, List.cons_append, List.nil_append]
      split <;> simp_all
    | unit d m hm => exact absurd rfl (hl d m hm l)

theorem readUnicodeEscape_pair {digits digits' : List Char} {n m : Nat}
    (h : digits.length = 4 ∧ ofBase? 16 digits = some n) (hlow : isLowSurrogate n = false)
    (hhigh : isHighSurrogate n = true) (h' : digits'.length = 4 ∧ ofBase? 16 digits' = some m)
    (rest : List Char) :
    (readUnicodeEscape (digits ++ ('\\' :: 'u' :: (digits' ++ rest)))).toOption =
      if isLowSurrogate m then
        some (Char.ofNat ((n - 0xD800) * 0x400 + (m - 0xDC00) + 0x10000), rest)
      else none := by
  simp only [readUnicodeEscape, readHex_digits h, readHex_digits h', ok_bind, hlow, hhigh,
    Bool.not_true, Bool.false_eq_true, if_false]
  split <;> rfl

theorem readUnicodeEscape_single {digits : List Char} {n : Nat}
    (h : digits.length = 4 ∧ ofBase? 16 digits = some n) (hlow : isLowSurrogate n = false)
    (hhigh : isHighSurrogate n = false) (rest : List Char) :
    readUnicodeEscape (digits ++ rest) = .ok (Char.ofNat n, rest) := by
  simp only [readUnicodeEscape, readHex_digits h, ok_bind, hlow, hhigh, Bool.not_false,
    Bool.false_eq_true, if_false, if_true]

theorem readUnicodeEscape_low {digits : List Char} {n : Nat}
    (h : digits.length = 4 ∧ ofBase? 16 digits = some n) (hlow : isLowSurrogate n = true)
    (rest : List Char) : (readUnicodeEscape (digits ++ rest)).toOption = none := by
  simp only [readUnicodeEscape, readHex_digits h, ok_bind, hlow, if_true, toOption_error]

theorem readStringLoop_backslash (b : Char) (bound done s : List Char) :
    (readStringLoop (b :: bound) done ('\\' :: s)).toOption =
      (readEscape s).toOption.bind fun x => (readStringLoop bound (x.1 :: done) x.2).toOption := by
  have hquote : '\\' ≠ '"' := by decide
  rw [← toOption_bind]
  simp only [readStringLoop, hquote, if_false, if_true]

theorem readEscape_unit (s : List Char) : readEscape ('u' :: s) = readUnicodeEscape s := rfl

theorem readStringLoop_body (l : Literal) : ∀ bound done rest : List Char,
    l.body.length < bound.length →
      (readStringLoop bound done (l.body ++ '"' :: rest)).toOption =
        l.text?.map fun t => (done.reverse ++ t, rest) := by
  fun_induction Literal.text? l with
  | case1 =>
    intro bound done rest hb
    obtain ⟨b, bound, rfl⟩ := List.exists_cons_of_length_pos (Nat.zero_lt_of_lt hb)
    simp [readStringLoop]
  | case2 c hc l ih =>
    intro bound done rest hb
    obtain ⟨b, bound, rfl⟩ := List.exists_cons_of_length_pos (Nat.zero_lt_of_lt hb)
    have hread := ih bound (c :: done) rest (Nat.lt_of_succ_lt_succ hb)
    simp [Piece.write, readStringLoop, hc, hread, Function.comp_def]
  | case3 c d hc l ih =>
    intro bound done rest hb
    obtain ⟨b, bound, rfl⟩ := List.exists_cons_of_length_pos (Nat.zero_lt_of_lt hb)
    have hu : c ≠ 'u' := by
      rintro rfl
      cases hc
    have hread := ih bound (d :: done) rest (by simp [Piece.write] at hb; omega)
    simp [Piece.write, readStringLoop_backslash, readEscape, hu, hc, hread, Function.comp_def]
  | case4 digits n hn l hlow =>
    intro bound done rest hb
    obtain ⟨b, bound, rfl⟩ := List.exists_cons_of_length_pos (Nat.zero_lt_of_lt hb)
    have hread := readUnicodeEscape_low hn hlow (body l ++ '"' :: rest)
    simp [Piece.write, readStringLoop_backslash, readEscape_unit, hread]
  | case5 digits n hn l hlow hhigh ih =>
    intro bound done rest hb
    obtain ⟨b, bound, rfl⟩ := List.exists_cons_of_length_pos (Nat.zero_lt_of_lt hb)
    have hread := readUnicodeEscape_single hn (by simpa using hlow) (by simpa using hhigh)
      (body l ++ '"' :: rest)
    have hloop := ih bound (Char.ofNat n :: done) rest (by simp [Piece.write] at hb; omega)
    simp [Piece.write, readStringLoop_backslash, readEscape_unit, hread, hloop, Function.comp_def]
  | case6 digits n hn hlow hhigh digits' m hm l hlow' ih =>
    intro bound done rest hb
    obtain ⟨b, bound, rfl⟩ := List.exists_cons_of_length_pos (Nat.zero_lt_of_lt hb)
    have hread := readUnicodeEscape_pair hn (by simpa using hlow) (by simpa using hhigh) hm
      (body l ++ '"' :: rest)
    rw [if_pos hlow'] at hread
    have hloop := ih bound
      (Char.ofNat ((n - 0xD800) * 0x400 + (m - 0xDC00) + 0x10000) :: done) rest
      (by simp [Piece.write] at hb; omega)
    simp [Piece.write, readStringLoop_backslash, readEscape_unit, hread, hloop, Function.comp_def]
  | case7 digits n hn hlow hhigh digits' m hm l hlow' =>
    intro bound done rest hb
    obtain ⟨b, bound, rfl⟩ := List.exists_cons_of_length_pos (Nat.zero_lt_of_lt hb)
    have hread := readUnicodeEscape_pair hn (by simpa using hlow) (by simpa using hhigh) hm
      (body l ++ '"' :: rest)
    rw [if_neg hlow'] at hread
    simp [Piece.write, readStringLoop_backslash, readEscape_unit, hread]
  | case8 digits n hn l hlow hhigh hl =>
    intro bound done rest hb
    obtain ⟨b, bound, rfl⟩ := List.exists_cons_of_length_pos (Nat.zero_lt_of_lt hb)
    have hread := readUnicodeEscape_half hn (by simpa using hlow) (by simpa using hhigh)
      (l := l) (fun d m hm l' => hl d m hm l') rest
    simp [Piece.write, readStringLoop_backslash, readEscape_unit, hread]

theorem readString_body (l : Literal) (rest : List Char) :
    (readString (l.body ++ '"' :: rest)).toOption = l.text?.map (·, rest) := by
  have hread := readStringLoop_body l (l.body ++ '"' :: rest) [] rest (by simp)
  simpa [readString] using hread

theorem Literal.text?_single {digits : List Char} {n : Nat}
    (h : digits.length = 4 ∧ ofBase? 16 digits = some n) (hlow : isLowSurrogate n = false)
    (hhigh : isHighSurrogate n = false) (l : Literal) :
    text? (.unit digits n h :: l) = (text? l).map (Char.ofNat n :: ·) := by
  rw [text?.eq_def]
  simp [hlow, hhigh]

theorem Literal.text?_pair {digits digits' : List Char} {n m : Nat}
    (h : digits.length = 4 ∧ ofBase? 16 digits = some n)
    (h' : digits'.length = 4 ∧ ofBase? 16 digits' = some m) (hlow : isLowSurrogate n = false)
    (hhigh : isHighSurrogate n = true) (hlow' : isLowSurrogate m = true) (l : Literal) :
    text? (.unit digits n h :: .unit digits' m h' :: l) =
      (text? l).map (Char.ofNat ((n - 0xD800) * 0x400 + (m - 0xDC00) + 0x10000) :: ·) := by
  rw [text?.eq_def]
  simp [hlow, hhigh, hlow']

theorem readUnicodeEscape_ok {s r : List Char} {d : Char}
    (h : readUnicodeEscape s = .ok (d, r)) :
    ∃ ps : Literal, '\\' :: 'u' :: s = body ps ++ r ∧
      ∀ l : Literal, text? (ps ++ l) = (text? l).map (d :: ·) := by
  obtain ⟨⟨n, s₁⟩, hn, h⟩ := bind_eq_ok h
  obtain ⟨digits, hs, hdigits⟩ := readHex_ok hn
  dsimp only at h
  split at h
  · cases h
  next hlow =>
  rw [Bool.not_eq_true] at hlow
  split at h
  · next hhigh =>
    rw [Bool.not_eq_true'] at hhigh
    cases h
    exact ⟨[.unit digits n hdigits], by simp [Piece.write, hs],
      text?_single hdigits hlow hhigh⟩
  next hhigh =>
  rw [Bool.not_eq_true', Bool.not_eq_false] at hhigh
  split at h
  · cases h
  · cases h
  · obtain ⟨⟨m, s₂⟩, hm, h⟩ := bind_eq_ok h
    obtain ⟨digits', hs', hdigits'⟩ := readHex_ok hm
    dsimp only at h
    split at h
    · next hlow' =>
      obtain ⟨hd, hr⟩ := Prod.mk.inj (Except.ok.inj h)
      refine ⟨[.unit digits n hdigits, .unit digits' m hdigits'], ?_, ?_⟩
      · simp [Piece.write, hs, hs', hr]
      · rw [← hd]
        exact text?_pair hdigits hdigits' hlow hhigh hlow'
    · cases h
  · cases h
  · cases h

theorem readEscape_ok {s r : List Char} {d : Char} (h : readEscape s = .ok (d, r)) :
    ∃ ps : Literal, '\\' :: s = body ps ++ r ∧
      ∀ l : Literal, text? (ps ++ l) = (text? l).map (d :: ·) := by
  unfold readEscape at h
  split at h
  · cases h
  next c r' =>
  split at h
  · next hu =>
    cases hu
    exact readUnicodeEscape_ok h
  · split at h
    · next d' hd =>
      cases h
      exact ⟨[.letter c d hd], by simp [Piece.write], fun l => by simp [text?]⟩
    · cases h

theorem readStringLoop_ok {bound : List Char} : ∀ {done s t r : List Char},
    readStringLoop bound done s = .ok (t, r) →
      ∃ (l : Literal) (t' : List Char), s = body l ++ '"' :: r ∧ text? l = some t' ∧
        t = done.reverse ++ t' := by
  induction bound with
  | nil =>
    intro done s t r h
    cases h
  | cons b bound ih =>
    intro done s t r h
    cases s with
    | nil => cases h
    | cons c s =>
      simp only [readStringLoop] at h
      split at h
      · next hc =>
        cases h
        exact ⟨[], [], by simp [hc], rfl, by simp⟩
      next hquote =>
      split at h
      · next hc =>
        obtain ⟨⟨d, s₁⟩, hd, h⟩ := bind_eq_ok h
        obtain ⟨ps, hs, hps⟩ := readEscape_ok hd
        obtain ⟨l, t', rfl, ht, rfl⟩ := ih h
        exact ⟨ps ++ l, d :: t', by rw [hc, hs, body_append, List.append_assoc], by simp [hps, ht],
          by simp⟩
      next hslash =>
      split at h
      · cases h
      · next hcontrol =>
        obtain ⟨l, t', rfl, ht, rfl⟩ := ih h
        exact ⟨.plain c ⟨hquote, hslash, hcontrol⟩ :: l, c :: t', rfl, by simp [text?, ht],
          by simp⟩

theorem readString_ok {s t r : List Char} (h : readString s = .ok (t, r)) :
    ∃ l : Literal, s = body l ++ '"' :: r ∧ text? l = some t := by
  obtain ⟨l, t', hs, ht, rfl⟩ := readStringLoop_ok h
  exact ⟨l, hs, ht⟩

theorem skipEscape_ok {s r : List Char} (h : skipEscape s = .ok r) :
    ∃ p : Piece, '\\' :: s = p.write ++ r := by
  unfold skipEscape at h
  split at h
  · cases h
  next c s =>
  split at h
  · next hu =>
    obtain ⟨⟨n, r'⟩, hn, heq⟩ := map_eq_ok h
    obtain ⟨digits, rfl, hdigits⟩ := readHex_ok hn
    cases heq
    exact ⟨.unit digits n hdigits, by rw [hu]; rfl⟩
  · split at h
    · next hsome =>
      cases h
      obtain ⟨d, hd⟩ := Option.isSome_iff_exists.1 hsome
      exact ⟨.letter c d hd, rfl⟩
    · cases h

theorem skipStringLoop_ok {bound : List Char} : ∀ {s r : List Char},
    skipStringLoop bound s = .ok r → ∃ l : Literal, s = body l ++ '"' :: r := by
  induction bound with
  | nil =>
    intro s r h
    cases h
  | cons b bound ih =>
    intro s r h
    cases s with
    | nil => cases h
    | cons c s =>
      simp only [skipStringLoop] at h
      split at h
      · next hc =>
        cases h
        exact ⟨[], by simp [hc]⟩
      next hquote =>
      split at h
      · next hc =>
        obtain ⟨s₁, hd, h⟩ := bind_eq_ok h
        obtain ⟨p, hs⟩ := skipEscape_ok hd
        obtain ⟨l, rfl⟩ := ih h
        exact ⟨p :: l, by rw [hc, hs, body_cons, List.append_assoc]⟩
      next hslash =>
      split at h
      · cases h
      · next hcontrol =>
        obtain ⟨l, rfl⟩ := ih h
        exact ⟨.plain c ⟨hquote, hslash, hcontrol⟩ :: l, rfl⟩

theorem skipStringLoop_piece (p : Piece) (b : Char) (bound s : List Char) :
    skipStringLoop (b :: bound) (p.write ++ s) = skipStringLoop bound s := by
  have hquote : '\\' ≠ '"' := by decide
  cases p with
  | plain c hc => simp [Piece.write, skipStringLoop, hc]
  | letter c d hd =>
    have hu : c ≠ 'u' := by
      rintro rfl
      cases hd
    simp [Piece.write, skipStringLoop, skipEscape, hu, hd]
  | unit digits n hn =>
    simp [Piece.write, skipStringLoop, skipEscape, readHex_digits hn]

theorem length_write_pos (p : Piece) : 0 < p.write.length := by
  cases p <;> simp [Piece.write]

theorem skipStringLoop_body (l : Literal) (rest : List Char) : ∀ bound : List Char,
    l.body.length < bound.length → skipStringLoop bound (l.body ++ '"' :: rest) = .ok rest := by
  induction l with
  | nil =>
    intro bound hb
    obtain ⟨b, bound, rfl⟩ := List.exists_cons_of_length_pos (Nat.zero_lt_of_lt hb)
    simp [skipStringLoop]
  | cons p l ih =>
    intro bound hb
    obtain ⟨b, bound, rfl⟩ := List.exists_cons_of_length_pos (Nat.zero_lt_of_lt hb)
    have hpos := length_write_pos p
    simp only [body_cons, List.length_append, List.length_cons] at hb
    rw [body_cons, List.append_assoc, skipStringLoop_piece]
    exact ih bound (by omega)

theorem skipString_body (l : Literal) (rest : List Char) :
    skipString (l.body ++ '"' :: rest) = .ok rest :=
  skipStringLoop_body l rest _ (by simp)

end FlowLines.Json
