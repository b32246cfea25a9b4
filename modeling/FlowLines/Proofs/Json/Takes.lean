import FlowLines.Json.Decode
import FlowLines.Json.Encode
import FlowLines.Proofs.Json.Text
import FlowLines.Proofs.Text.Digits

/-! What it is for a reader to take a text as a value.  Strings and natural numbers are taken as
they are written. -/

namespace FlowLines.Json

open FlowLines.Text

/-- The text ends here, or goes on with what may follow a value between brackets. -/
def Delimited : List Char → Prop
  | [] => True
  | c :: _ => c = ',' ∨ c = ']' ∨ c = '}'

/-- The text begins with neither a space, nor `null`, nor the end of a list. -/
def Starts : List Char → Prop
  | [] => False
  | c :: _ => isSpace c = false ∧ c ≠ 'n' ∧ c ≠ ']'

structure Takes {α : Type} (read : Reader α) (text : List Char) (x : α) : Prop where
  starts : Starts text
  reads : ∀ rest, Delimited rest → read (text ++ rest) = .ok (x, rest)

def mapped {α β : Type} (f : α → β) (read : Reader α) : Reader β := fun s =>
  (fun (x, r) => (f x, r)) <$> read s

def passing {α : Type} (x : α) : Reader α := fun s => (x, ·) <$> skipValue s

theorem Takes.map {α β : Type} {read : Reader α} {text : List Char} {x : α} (h : Takes read text x)
    (f : α → β) : Takes (mapped f read) text (f x) where
  starts := h.starts
  reads rest hr := by simp only [mapped, h.reads rest hr, map_ok]

theorem Starts.skipSpace {text : List Char} (h : Starts text) (rest : List Char) :
    skipSpace (text ++ rest) = text ++ rest := by
  cases text with
  | nil => exact h.elim
  | cons c text => simp [Json.skipSpace, h.1]

theorem Takes.optional {α : Type} {read : Reader α} {text : List Char} {x : α}
    (h : Takes read text x) : Takes (readOptional read) text (some x) where
  starts := h.starts
  reads rest hr := by
    have hs := h.starts.skipSpace rest
    have hx := h.reads rest hr
    have hstarts := h.starts
    unfold readOptional
    rw [hs]
    split
    · next heq =>
      cases text with
      | nil => exact hstarts.elim
      | cons c text =>
        cases heq
        exact absurd rfl hstarts.2.1
    · rw [hx, map_ok]

theorem starts_writeString (s : List Char) : Starts (writeString s) := by
  simp [Starts, writeString, isSpace]

theorem writeString_append (s rest : List Char) :
    writeString s ++ rest = '"' :: (s.flatMap writeChar ++ '"' :: rest) := by
  simp [writeString]

theorem takes_readText (wanted : String) (s : List Char) :
    Takes (readText wanted) (writeString s) s where
  starts := starts_writeString s
  reads rest _ := by
    have hs := (starts_writeString s).skipSpace rest
    rw [readText, hs, writeString_append]
    exact readString_write s rest

theorem le_foldl_digits (s : List Char) (n : Nat) :
    n ≤ s.foldl (fun n c => 10 * n + digitValue c) n := by
  induction s generalizing n with
  | nil => exact Nat.le_refl n
  | cons c s ih =>
    have h := ih (10 * n + digitValue c)
    rw [List.foldl_cons]
    omega

theorem absorb_append {s rest : List Char} (hs : ∀ c ∈ s, isDigit c)
    (hr : rest.head?.any isDigit = false) (n : Nat)
    (h : s.foldl (fun n c => 10 * n + digitValue c) n < UInt64.size) :
    absorb n (s ++ rest) = (s.foldl (fun n c => 10 * n + digitValue c) n, rest) := by
  induction s generalizing n with
  | nil =>
    cases rest with
    | nil => rfl
    | cons c r =>
      have hc : isDigit c = false := hr
      simp [absorb, hc]
  | cons c s ih =>
    have hc := hs c List.mem_cons_self
    have hle := le_foldl_digits s (10 * n + digitValue c)
    rw [List.foldl_cons] at h ⊢
    rw [List.cons_append, absorb, hc, Bool.true_and, if_pos (decide_eq_true (by omega)),
      ih (fun d hd => hs d (List.mem_cons_of_mem c hd)) _ h]

theorem Delimited.head {rest : List Char} (h : Delimited rest) :
    rest.head?.any isDigit = false := by
  cases rest with
  | nil => rfl
  | cons c r => rcases h with rfl | rfl | rfl <;> rfl

theorem leadingZero_eq_false {c : Char} {s rest : List Char} (h : c = '0' → s = [])
    (hr : Delimited rest) : (c = '0' && (s ++ rest).head?.any isDigit) = false := by
  by_cases h0 : c = '0'
  · rw [h h0, List.nil_append, hr.head, Bool.and_false]
  · rw [decide_eq_false h0, Bool.false_and]

theorem readNumber_decimal {n : Nat} {rest : List Char} (h : n < UInt64.size)
    (hr : Delimited rest) : readNumber true (decimal n ++ rest) = .ok (.natural n, rest) := by
  obtain ⟨c, s, hs, hc, hdigits, hzero⟩ := exists_decimal_eq_cons n
  have hvalue : s.foldl (fun n c => 10 * n + digitValue c) (digitValue c) = n := by
    rw [← ofDigits_decimal n, hs, ofDigits, List.foldl_cons, Nat.mul_zero, Nat.zero_add]
  have habsorb := absorb_append hdigits hr.head (digitValue c) (hvalue ▸ h)
  have hlead := leadingZero_eq_false hzero hr
  simp only [hs, List.cons_append, readNumber, hlead, hc, habsorb, hvalue]
  cases rest with
  | nil => rfl
  | cons d r => rcases hr with rfl | rfl | rfl <;> rfl

theorem starts_decimal (n : Nat) : Starts (decimal n) := by
  obtain ⟨c, s, hs, hdigit, -⟩ := exists_decimal_eq_cons n
  have hc {d : Char} : isDigit d = false → c ≠ d := ne_of_isDigit hdigit
  have hspace : c ≠ ' ' ∧ c ≠ '\n' ∧ c ≠ '\t' ∧ c ≠ '\r' := ⟨hc rfl, hc rfl, hc rfl, hc rfl⟩
  rw [hs]
  refine ⟨?_, hc rfl, hc rfl⟩
  simp [isSpace, hspace]

theorem takes_readNatural {n bound : Nat} (wanted : String) (h : n < bound)
    (hb : bound ≤ UInt64.size) : Takes (readNatural bound wanted) (decimal n) n where
  starts := starts_decimal n
  reads rest hr := by
    have hs := (starts_decimal n).skipSpace rest
    have hread := readNumber_decimal (Nat.lt_of_lt_of_le h hb) hr
    simp only [readNatural, hs]
    split
    · next heq => exact absurd (List.append_eq_nil_iff.1 heq).1 (decimal_ne_nil n)
    · next heq => exact absurd (isDigit_of_decimal_append_eq_cons heq) (by decide)
    · next heq =>
      rw [if_pos (isDigit_of_decimal_append_eq_cons heq), ← heq, hread]
      simp only [ok_bind, if_pos h]

theorem skipNumber_decimal (n : Nat) {rest : List Char} (hr : Delimited rest) :
    skipNumber (decimal n ++ rest) = .ok rest := by
  obtain ⟨c, s, hs, hc, hdigits, hzero⟩ := exists_decimal_eq_cons n
  have hlead := leadingZero_eq_false hzero hr
  have hrest : rest.dropWhile isDigit = rest := by
    have hhead := hr.head
    cases rest with
    | nil => rfl
    | cons d r =>
      have hd : isDigit d = false := hhead
      simp [hd]
  have hnext : (if c = '0' then s ++ rest else (s ++ rest).dropWhile isDigit) = rest := by
    by_cases h0 : c = '0'
    · rw [if_pos h0, hzero h0, List.nil_append]
    · rw [if_neg h0, List.dropWhile_append_of_pos hdigits, hrest]
  simp only [hs, List.cons_append, skipNumber, hlead, hc, hnext]
  cases rest with
  | nil => rfl
  | cons d r => rcases hr with rfl | rfl | rfl <;> rfl

theorem starts_write (v : Scalar) : Starts v.write := by
  cases v with
  | text s => exact starts_writeString s.toList
  | natural n => exact starts_decimal n

theorem head_write {v : Scalar} {rest r : List Char} {c : Char} (h : v.write ++ rest = c :: r) :
    c = '"' ∨ isDigit c := by
  cases v with
  | text s =>
    rw [Scalar.write, writeString_append] at h
    cases h
    exact .inl rfl
  | natural n =>
    exact .inr (isDigit_of_decimal_append_eq_cons h)

theorem skipScalar_write (v : Scalar) {rest : List Char} (hr : Delimited rest) :
    skipScalar (v.write ++ rest) = .ok rest := by
  cases v with
  | text s =>
    rw [Scalar.write, writeString_append]
    exact skipString_write s.toList rest
  | natural n =>
    have hskip := skipNumber_decimal n hr
    rw [Scalar.write]
    unfold skipScalar
    split
    · next heq => exact absurd (isDigit_of_decimal_append_eq_cons heq) (by decide)
    · next heq => exact absurd (isDigit_of_decimal_append_eq_cons heq) (by decide)
    · next heq => exact absurd (isDigit_of_decimal_append_eq_cons heq) (by decide)
    · next heq => exact absurd (isDigit_of_decimal_append_eq_cons heq) (by decide)
    · next heq => exact absurd (isDigit_of_decimal_append_eq_cons heq) (by decide)
    · next heq => rw [if_pos (isDigit_of_decimal_append_eq_cons heq), hskip]
    · next heq => exact absurd (List.append_eq_nil_iff.1 heq).1 (decimal_ne_nil n)

theorem skipValue_write (v : Scalar) {rest : List Char} (hr : Delimited rest) :
    skipValue (v.write ++ rest) = .ok rest := by
  have hskip := skipScalar_write v hr
  have hspace := (starts_write v).skipSpace rest
  have hhead {c : Char} {r : List Char} (h : v.write ++ rest = c :: r) := head_write h
  unfold skipValue
  cases hs : v.write ++ rest with
  | nil =>
    have hstarts := starts_write v
    rw [(List.append_eq_nil_iff.1 hs).1] at hstarts
    exact hstarts.elim
  | cons c r =>
    rw [hs] at hskip hspace
    rw [skipLoop, hspace]
    split
    · next heq =>
      cases heq
      exact absurd (hhead hs) (by decide)
    · next heq =>
      cases heq
      exact absurd (hhead hs) (by decide)
    · rw [hskip, ok_bind]
      simp only [skipLoop]

theorem takes_passing {α : Type} (v : Scalar) (x : α) : Takes (passing x) v.write x where
  starts := starts_write v
  reads rest hr := by rw [passing, skipValue_write v hr, map_ok]

end FlowLines.Json
