import FlowLines.Proofs.Except
import FlowLines.Proofs.Text.Digits
import FlowLines.Proofs.Time.Calendar
import FlowLines.Time.Instant

/-! Every instant that is read lies in the years that time stamps reach, and is read back from
the text it is written as. -/

namespace FlowLines.Time

open FlowLines.Text

structure LocalTime.Valid (t : LocalTime) : Prop where
  date : t.date.IsValid
  hour : t.hour < 24
  minute : t.minute < 60
  second : t.second < 60
  nano : t.nano < 1000000000 ∨ t.nano < 2000000000 ∧ t.second = 59

namespace Instant

/-- A leap second follows second 59 of a minute. -/
structure Valid (i : Instant) : Prop where
  year : isYear (Date.ofDays i.day).year
  second : i.second < 86400
  nano : i.nano < 1000000000 ∨ i.nano < 2000000000 ∧ i.second % 60 = 59

theorem readNumber_of_digits {ds rest : List Char} {width : Option Nat}
    (h : ((width.map (ds ++ rest).take).getD (ds ++ rest)).takeWhile isDigit = ds) (hne : ds ≠ [])
    (hlt : ofDigits ds < 0x8000000000000000) :
    readNumber width (ds ++ rest) = .ok (ofDigits ds, rest) := by
  have hs : (ds ++ rest).isEmpty = false := by
    rw [List.isEmpty_eq_false_iff]
    intro h
    exact hne (List.append_eq_nil_iff.1 h).1
  have hd : ds.isEmpty = false := List.isEmpty_eq_false_iff.2 hne
  simp only [readNumber, h, hs, hd, if_pos hlt, List.drop_left, Bool.false_eq_true, if_false]

theorem readNumber_padded {w n : Nat} (rest : List Char) (hw : 0 < w) (hn : n < 10 ^ w)
    (hlt : n < 0x8000000000000000) :
    readNumber (some w) (padLeft w (decimal n) ++ rest) = .ok (n, rest) := by
  have hlen := length_padded hw hn
  have hds := ofDigits_padded w n
  have h : ((some w).map (padLeft w (decimal n) ++ rest).take).getD
      (padLeft w (decimal n) ++ rest) = padLeft w (decimal n) := by
    rw [Option.map_some, Option.getD_some, List.take_left' hlen]
  rw [readNumber_of_digits, hds]
  · rw [h, ← List.append_nil (padLeft w (decimal n)),
      List.takeWhile_append_of_pos fun _ => isDigit_of_mem_padded]
    rfl
  · exact decimal_padded_ne_nil w n
  · rw [hds]
    exact hlt

theorem readPart_padded {low high n : Nat} (rest : List Char) (hl : low ≤ n) (hh : n ≤ high)
    (hn : n < 100) : readPart low high (padLeft 2 (decimal n) ++ rest) = .ok (n, rest) := by
  have ht := trimStart_of_digits (fun _ => isDigit_of_mem_padded) (decimal_padded_ne_nil 2 n) rest
  have hr := readNumber_padded rest (w := 2) (by decide) hn (by omega)
  simp only [readPart, ht, hr, ok_bind, decide_eq_true hl, decide_eq_true hh, Bool.and_self,
    if_true]

theorem readMark_self (mark : Char) (h : isBlank mark = false) (rest : List Char) :
    readMark mark (mark :: rest) = .ok rest := by
  simp [readMark, trimStart, h]

theorem readNumber_padded_mark {w n : Nat} (width : Option Nat) {mark : Char} (rest : List Char)
    (h : isDigit mark = false) (hw : ∀ v ∈ width, (padLeft w (decimal n)).length ≤ v)
    (hlt : n < 0x8000000000000000) :
    readNumber width (padLeft w (decimal n) ++ mark :: rest) = .ok (n, mark :: rest) := by
  have hds := ofDigits_padded w n
  have htake (t : List Char) : (padLeft w (decimal n) ++ t).takeWhile isDigit =
      padLeft w (decimal n) ++ t.takeWhile isDigit :=
    List.takeWhile_append_of_pos fun _ => isDigit_of_mem_padded
  rw [readNumber_of_digits, hds]
  · cases width with
    | none => rw [Option.map_none, Option.getD_none, htake]; simp [h]
    | some v =>
      rw [Option.map_some, Option.getD_some, List.take_append, List.take_of_length_le (hw v rfl),
        htake]
      cases v - (padLeft w (decimal n)).length <;> simp [h]
  · exact decimal_padded_ne_nil w n
  · rw [hds]
    exact hlt

theorem year_bounds {year : Int} (h : isYear year) :
    (decide (-0x80000000 ≤ year) && decide (year < 0x80000000)) = true := by
  simp only [isYear, Bool.and_eq_true, decide_eq_true_eq] at h ⊢
  omega

theorem readYear_signed {sign : Char} {year : Int}
    (hs : sign = '-' ∧ year < 0 ∨ sign = '+' ∧ 0 ≤ year) (h : isYear year) (rest : List Char) :
    readYear (sign :: (padLeft 4 (decimal year.natAbs) ++ '-' :: rest)) =
      .ok (year, '-' :: rest) := by
  have hb := year_bounds h
  simp only [isYear, Bool.and_eq_true, decide_eq_true_eq] at h
  have hr := readNumber_padded_mark (w := 4) (n := year.natAbs) none rest
    (rfl : isDigit '-' = false) (by intro v hv; cases hv) (by omega)
  rcases hs with ⟨rfl, hneg⟩ | ⟨rfl, hneg⟩
  · have ht (s : List Char) : trimStart ('-' :: s) = '-' :: s := rfl
    have habs : -(year.natAbs : Int) = year := by omega
    simp only [readYear, ht, hr, map_ok, ok_bind, habs, hb, if_true]
  · have ht (s : List Char) : trimStart ('+' :: s) = '+' :: s := rfl
    have habs : (year.natAbs : Int) = year := by omega
    simp only [readYear, ht, hr, map_ok, ok_bind, habs, hb, if_true]

theorem readYear_write {year : Int} (h : isYear year) (rest : List Char) :
    readYear (writeYear year ++ '-' :: rest) = .ok (year, '-' :: rest) := by
  by_cases hneg : year < 0
  · rw [writeYear, if_pos hneg]
    exact readYear_signed (.inl ⟨rfl, hneg⟩) h rest
  · by_cases hlarge : 9999 < year
    · rw [writeYear, if_neg hneg, if_pos hlarge]
      exact readYear_signed (.inr ⟨rfl, Int.not_lt.1 hneg⟩) h rest
    · rw [writeYear, if_neg hneg, if_neg hlarge]
      have hr := readNumber_padded (w := 4) (n := year.natAbs) ('-' :: rest) (by decide)
        (by omega) (by omega)
      have ht := trimStart_of_digits (fun _ => isDigit_of_mem_padded)
        (decimal_padded_ne_nil 4 year.natAbs) ('-' :: rest)
      have habs : (year.natAbs : Int) = year := by omega
      have hmark {c : Char} {s : List Char} :
          padLeft 4 (decimal year.natAbs) ++ '-' :: rest = c :: s → isDigit c :=
        isDigit_of_append_eq_cons (fun _ => isDigit_of_mem_padded) (decimal_padded_ne_nil 4 _)
      rw [readYear, ht]
      split
      · next h => exact absurd (hmark h) (by decide)
      · next h => exact absurd (hmark h) (by decide)
      · simp only [hr, map_ok, ok_bind, habs, year_bounds h, if_true]

theorem readFraction_padded {k m : Nat} (hk : 0 < k) (hk' : k ≤ 9) (hm : m < 10 ^ k) {mark : Char}
    (hmark : isDigit mark = false) (rest : List Char) :
    readFraction ('.' :: (padLeft k (decimal m) ++ mark :: rest)) =
      .ok (m * 10 ^ (9 - k), mark :: rest) := by
  have hlen := length_padded hk hm
  have hlt : m < 0x8000000000000000 := by
    have : 10 ^ k ≤ 10 ^ 9 := Nat.pow_le_pow_right (by decide) hk'
    omega
  have hr := readNumber_padded_mark (w := k) (n := m) (some 9) rest hmark
    (by simpa [hlen] using hk') hlt
  simp [readFraction, hr, hlen, hmark]

theorem readFraction_write {n : Nat} (h : n < 1000000000) {mark : Char}
    (hmark : isDigit mark = false) (hpoint : mark ≠ '.') (rest : List Char) :
    readFraction (writeFraction n ++ mark :: rest) = .ok (n, mark :: rest) := by
  unfold writeFraction
  by_cases h0 : n = 0
  · rw [if_pos h0, h0]
    simp [readFraction, hpoint]
  by_cases h3 : n % 1000000 = 0
  · rw [if_neg h0, if_pos h3, List.cons_append,
      readFraction_padded (k := 3) (by decide) (by decide) (by omega) hmark]
    congr 2
    omega
  by_cases h6 : n % 1000 = 0
  · rw [if_neg h0, if_neg h3, if_pos h6, List.cons_append,
      readFraction_padded (k := 6) (by decide) (by decide) (by omega) hmark]
    congr 2
    omega
  · rw [if_neg h0, if_neg h3, if_neg h6, List.cons_append,
      readFraction_padded (k := 9) (by decide) (by decide) (by omega) hmark]
    congr 2
    exact Nat.mul_one n

theorem readLocal_write {t : LocalTime} (h : t.Valid) {mark : Char} (hmark : isDigit mark = false)
    (hpoint : mark ≠ '.') (rest : List Char) :
    readLocal (t.write ++ mark :: rest) = .ok (t, mark :: rest) := by
  obtain ⟨hyear, hmonth, hmonth', hday, hday'⟩ := h.date
  have hlast := monthLength_le t.date.year t.date.month
  have hhour := h.hour
  have hminute := h.minute
  have hsecond := h.second
  have hnano := h.nano
  have hleap : (t.second + t.nano / 1000000000) / 60 = t.nano / 1000000000 := by omega
  have hpart {n low high : Nat} (rest : List Char) (hl : low ≤ n) (hh : n ≤ high)
      (hb : high < 100) := readPart_padded rest hl hh (Nat.lt_of_le_of_lt hh hb)
  simp only [LocalTime.write, List.append_assoc, List.cons_append]
  simp only [readLocal, readYear_write hyear, ok_bind, readMark_self '-' rfl]
  rw [hpart _ hmonth hmonth' (by decide)]
  simp only [ok_bind, readMark_self '-' rfl]
  rw [hpart _ hday (by omega) (by decide)]
  simp only [ok_bind, readBetween, decide_true, Bool.or_true, Bool.true_or, if_true]
  rw [hpart _ (by omega) (by omega) (by decide)]
  simp only [ok_bind, readMark_self ':' rfl]
  rw [hpart _ (by omega) (by omega) (by decide)]
  simp only [ok_bind, readMark_self ':' rfl]
  rw [hpart _ (by omega) (by omega) (by decide)]
  simp only [ok_bind]
  rw [readFraction_write (by omega) hmark hpoint]
  simp only [ok_bind, hleap, Nat.add_sub_cancel, Nat.mod_add_div']

theorem valid_toLocal {i : Instant} (h : i.Valid) : i.toLocal.Valid where
  date := Date.isValid_ofDays h.year
  hour := Nat.div_lt_of_lt_mul h.second
  minute := Nat.mod_lt _ (by decide)
  second := Nat.mod_lt _ (by decide)
  nano := h.nano

theorem ofLocal_toLocal {i : Instant} (h : i.Valid) : ofLocal i.toLocal 0 = i := by
  obtain ⟨day, second, nano⟩ := i
  have hs : second < 86400 := h.second
  have hsecond : (toLocal ⟨day, second, nano⟩).secondOfDay = second := by
    simp only [LocalTime.secondOfDay, toLocal]
    omega
  have hday : (toLocal ⟨day, second, nano⟩).date.toDays = day := Date.toDays_ofDays day
  have hnano : (toLocal ⟨day, second, nano⟩).nano = nano := rfl
  simp only [ofLocal, hsecond, hday, hnano, mk.injEq, and_true]
  omega

/-- However an offset of zero is shown. -/
theorem parse_write {i : Instant} (h : i.Valid) {zero : ZeroOffset} :
    parse (i.write zero) = .ok i := by
  have hl := valid_toLocal h
  have hd : i.toLocal.date.IsValid := hl.date
  have hz : readZone (trimStart zero.text) = .ok (0, []) := by cases zero <;> rfl
  have ht : trimStart [] = [] := rfl
  have hlocal : readLocal (i.toLocal.write ++ zero.text) = .ok (i.toLocal, zero.text) := by
    cases zero with
    | letter => exact readLocal_write hl rfl (by decide) []
    | digits => exact readLocal_write hl rfl (by decide) "00:00".toList
  simp only [write, parse, hlocal, ok_bind, hz, ht, ofLocal_toLocal h, h.year, hd]
  rfl

theorem readNumber_lt {w n : Nat} {s r : List Char} (h : readNumber (some w) s = .ok (n, r)) :
    n < 10 ^ (s.length - r.length) ∧ s.length - r.length ≤ w := by
  simp only [readNumber, Option.map_some, Option.getD_some] at h
  split at h
  · cases h
  split at h
  · cases h
  split at h
  · cases h
    have hlt := ofDigits_lt (s := (s.take w).takeWhile isDigit) fun c hc =>
      List.all_eq_true.1 List.all_takeWhile c hc
    have hle := (List.takeWhile_sublist isDigit (l := s.take w)).length_le
    rw [List.length_take] at hle
    rw [List.length_drop, Nat.sub_sub_self (by omega)]
    exact ⟨hlt, by omega⟩
  · cases h

theorem readPart_bounds {low high n : Nat} {s r : List Char}
    (h : readPart low high s = .ok (n, r)) : low ≤ n ∧ n ≤ high := by
  obtain ⟨⟨m, r'⟩, -, h⟩ := bind_eq_ok h
  simp only at h
  split at h
  · next hb =>
    cases h
    simpa using hb
  · cases h

theorem readFraction_lt {n : Nat} {s r : List Char} (h : readFraction s = .ok (n, r)) :
    n < 1000000000 := by
  unfold readFraction at h
  split at h
  · next s =>
    obtain ⟨⟨m, r'⟩, hm, h⟩ := bind_eq_ok h
    cases h
    obtain ⟨hlt, hle⟩ := readNumber_lt hm
    generalize s.length - r'.length = k at hlt hle ⊢
    calc m * 10 ^ (9 - k) < 10 ^ k * 10 ^ (9 - k) :=
          Nat.mul_lt_mul_of_pos_right hlt (Nat.pow_pos (by decide))
      _ = 1000000000 := by rw [← Nat.pow_add, Nat.add_sub_cancel' hle]
  · cases h
    decide

theorem readLocal_second {s r : List Char} {t : LocalTime} (h : readLocal s = .ok (t, r)) :
    t.second < 60 ∧ (t.nano < 1000000000 ∨ t.nano < 2000000000 ∧ t.second = 59) := by
  obtain ⟨⟨year, s⟩, -, h⟩ := bind_eq_ok h
  obtain ⟨s, -, h⟩ := bind_eq_ok h
  obtain ⟨⟨month, s⟩, -, h⟩ := bind_eq_ok h
  obtain ⟨s, -, h⟩ := bind_eq_ok h
  obtain ⟨⟨day, s⟩, -, h⟩ := bind_eq_ok h
  obtain ⟨s, -, h⟩ := bind_eq_ok h
  obtain ⟨⟨hour, s⟩, -, h⟩ := bind_eq_ok h
  obtain ⟨s, -, h⟩ := bind_eq_ok h
  obtain ⟨⟨minute, s⟩, -, h⟩ := bind_eq_ok h
  obtain ⟨s, -, h⟩ := bind_eq_ok h
  obtain ⟨⟨second, s⟩, hs, h⟩ := bind_eq_ok h
  obtain ⟨⟨nano, s⟩, hn, h⟩ := bind_eq_ok h
  have hsecond := (readPart_bounds hs).2
  have hnano := readFraction_lt hn
  cases h
  simp only
  omega

theorem parse_valid {s : List Char} {i : Instant} (h : parse s = .ok i) : i.Valid := by
  obtain ⟨⟨t, r⟩, ht, h⟩ := bind_eq_ok h
  obtain ⟨⟨offset, r⟩, -, h⟩ := bind_eq_ok h
  obtain ⟨hsecond, hnano⟩ := readLocal_second ht
  simp only at h
  split at h
  · cases h
  split at h
  · cases h
  split at h
  · cases h
  split at h
  · next hyear =>
    cases h
    have hmod : (ofLocal t offset).second % 60 = t.second := by
      simp only [ofLocal, LocalTime.secondOfDay]
      omega
    refine ⟨hyear, ?_, ?_⟩
    · simp only [ofLocal]
      omega
    · rw [hmod]
      exact hnano
  · cases h

end Instant

end FlowLines.Time
