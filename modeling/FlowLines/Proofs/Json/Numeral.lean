import FlowLines.Proofs.Json.Grammar

/-! Numbers are passed over as the grammar has them.  Those that are written as natural ones are
read as natural ones, and no others. -/

namespace FlowLines.Json

open FlowLines.Text

def NoMore : List Char → Prop
  | [] => True
  | c :: _ => isDigit c = false ∧ c ≠ '.' ∧ c ≠ 'e' ∧ c ≠ 'E'

theorem Ends.noMore {s : List Char} (h : Ends s) : NoMore s := by
  cases s with
  | nil => trivial
  | cons c s =>
    by_cases hc : isSpace c
    · simp only [isSpace, Bool.or_eq_true, decide_eq_true_eq] at hc
      rcases hc with ((rfl | rfl) | rfl) | rfl <;> exact ⟨rfl, by decide, by decide, by decide⟩
    · rw [Ends, skipSpace_cons (by simpa using hc)] at h
      rcases h with rfl | rfl | rfl <;> exact ⟨rfl, by decide, by decide, by decide⟩

theorem NoMore.head {s : List Char} (h : NoMore s) : s.head?.any isDigit = false := by
  cases s with
  | nil => rfl
  | cons c s => exact h.1

theorem dropWhile_isDigit_append {ds rest : List Char} (h : ∀ c ∈ ds, isDigit c)
    (hr : rest.head?.any isDigit = false) : (ds ++ rest).dropWhile isDigit = rest := by
  rw [List.dropWhile_append_of_pos h]
  cases rest with
  | nil => rfl
  | cons c r =>
    have hc : isDigit c = false := hr
    simp [hc]

theorem head_dropWhile_isDigit (s : List Char) :
    (s.dropWhile isDigit).head?.any isDigit = false := by
  have h := List.head?_dropWhile_not isDigit s
  cases hs : (s.dropWhile isDigit).head? with
  | none => rfl
  | some c =>
    rw [hs] at h
    simpa using h

theorem Digits.head {ds : List Char} (h : Digits ds) (rest : List Char) :
    (ds ++ rest).head?.any isDigit = true := by
  obtain ⟨hne, hall⟩ := h
  cases ds with
  | nil => exact absurd rfl hne
  | cons c ds => exact hall c List.mem_cons_self

theorem skipDigits_append {ds rest : List Char} (h : Digits ds)
    (hr : rest.head?.any isDigit = false) : skipDigits (ds ++ rest) = some rest := by
  rw [skipDigits, if_pos (h.head rest), dropWhile_isDigit_append h.2 hr]

theorem skipDigits_eq_some {s rest : List Char} (h : skipDigits s = some rest) :
    ∃ ds, Digits ds ∧ s = ds ++ rest := by
  unfold skipDigits at h
  split at h
  · next hd =>
    cases h
    refine ⟨s.takeWhile isDigit, ⟨?_, fun c hc => List.mem_takeWhile_imp hc⟩,
      List.takeWhile_append_dropWhile.symm⟩
    cases s with
    | nil => cases hd
    | cons c s =>
      have hc : isDigit c = true := hd
      simp [hc]
  · cases h

theorem skipExponent_append {sign ds rest : List Char}
    (hsign : sign = [] ∨ sign = ['+'] ∨ sign = ['-']) (h : Digits ds)
    (hr : rest.head?.any isDigit = false) : skipExponent (sign ++ (ds ++ rest)) = .ok rest := by
  have hskip := skipDigits_append h hr
  rcases hsign with rfl | rfl | rfl
  · obtain ⟨c, s, hs⟩ := List.exists_cons_of_ne_nil h.1
    have hc : isDigit c := h.2 c (by rw [hs]; exact List.mem_cons_self)
    have hplus : c ≠ '+' := ne_of_isDigit hc rfl
    have hminus : c ≠ '-' := ne_of_isDigit hc rfl
    rw [hs, List.cons_append] at hskip ⊢
    simp [skipExponent, hplus, hminus, hskip]
  · simp only [skipExponent, List.cons_append, List.nil_append, hskip]
  · simp only [skipExponent, List.cons_append, List.nil_append, hskip]

theorem skipExponent_ok {e : Char} {s rest : List Char} (he : e = 'e' ∨ e = 'E')
    (h : skipExponent s = .ok rest) : ∃ t, Exponent t ∧ e :: s = t ++ rest := by
  have hsplit : ∃ sign s', (sign = [] ∨ sign = ['+'] ∨ sign = ['-']) ∧ s = sign ++ s' ∧
      skipDigits s' = some rest := by
    unfold skipExponent at h
    dsimp only at h
    split at h
    · next hs =>
      cases h
      split at hs
      · next s' => exact ⟨['+'], s', .inr (.inl rfl), rfl, hs⟩
      · next s' => exact ⟨['-'], s', .inr (.inr rfl), rfl, hs⟩
      · exact ⟨[], s, .inl rfl, rfl, hs⟩
    · cases h
  obtain ⟨sign, s', hsign, rfl, hs⟩ := hsplit
  obtain ⟨ds, hds, rfl⟩ := skipDigits_eq_some hs
  exact ⟨e :: (sign ++ ds), .digits he hsign hds, by simp⟩

def skipTail : List Char → Except Stop (List Char)
  | '.' :: s =>
    match skipDigits s with
    | none => .error ⟨.invalidNumber, s, 1⟩
    | some ('e' :: s) => skipExponent s
    | some ('E' :: s) => skipExponent s
    | some s => .ok s
  | 'e' :: s => skipExponent s
  | 'E' :: s => skipExponent s
  | s => .ok s

theorem skipNumber_cons (c : Char) (r : List Char) : skipNumber (c :: r) =
    if c = '0' && r.head?.any isDigit then .error ⟨.invalidNumber, r, 1⟩
    else if !isDigit c then .error ⟨.invalidNumber, c :: r, 1⟩
    else skipTail (if c = '0' then r else r.dropWhile isDigit) := rfl

theorem skipNumber_whole {w rest : List Char} (hw : Whole w)
    (hr : rest.head?.any isDigit = false) : skipNumber (w ++ rest) = skipTail rest := by
  cases hw with
  | zero =>
    rw [List.cons_append, List.nil_append, skipNumber_cons]
    simp [hr, isDigit]
  | @digits c s hc hs =>
    have hdigit : isDigit c := hs.2 c List.mem_cons_self
    have hall : ∀ d ∈ s, isDigit d := fun d hd => hs.2 d (List.mem_cons_of_mem c hd)
    rw [List.cons_append, skipNumber_cons, dropWhile_isDigit_append hall hr]
    simp [hc, hdigit]

theorem skipNumber_ok {s rest : List Char} (h : skipNumber s = .ok rest) :
    ∃ w s', Whole w ∧ s = w ++ s' ∧ skipTail s' = .ok rest := by
  cases s with
  | nil => cases h
  | cons c r =>
    rw [skipNumber_cons] at h
    split at h
    · cases h
    split at h
    · cases h
    next hdigit =>
    rw [Bool.not_eq_true', Bool.not_eq_false] at hdigit
    split at h
    · next hc => exact ⟨['0'], r, .zero, by rw [hc]; rfl, h⟩
    · next hc =>
      refine ⟨c :: r.takeWhile isDigit, r.dropWhile isDigit, .digits hc ⟨by simp, ?_⟩, ?_, h⟩
      · intro d hd
        rcases List.mem_cons.1 hd with rfl | hd
        · exact hdigit
        · exact List.mem_takeWhile_imp hd
      · rw [List.cons_append, List.takeWhile_append_dropWhile]

theorem skipTail_noMore {s : List Char} (h : NoMore s) : skipTail s = .ok s := by
  cases s with
  | nil => rfl
  | cons c s =>
    obtain ⟨-, hpoint, he, hE⟩ := h
    unfold skipTail
    split <;> simp_all

theorem skipTail_exponent {e rest : List Char} (he : Exponent e) (hr : NoMore rest) :
    skipTail (e ++ rest) = .ok rest := by
  cases he with
  | none => exact skipTail_noMore hr
  | digits h hsign hds =>
    have hskip := skipExponent_append hsign hds hr.head
    rw [List.cons_append, List.append_assoc]
    rcases h with rfl | rfl <;> exact hskip

theorem Exponent.head {e rest : List Char} (he : Exponent e) (hr : NoMore rest) :
    (e ++ rest).head?.any isDigit = false := by
  cases he with
  | none => exact hr.head
  | digits h hsign hds => rcases h with rfl | rfl <;> rfl

theorem Fraction.head {f e rest : List Char} (hf : Fraction f) (he : Exponent e)
    (hr : NoMore rest) : (f ++ (e ++ rest)).head?.any isDigit = false := by
  cases hf with
  | none => exact he.head hr
  | digits hds => rfl

theorem skipTail_append {f e rest : List Char} (hf : Fraction f) (he : Exponent e)
    (hr : NoMore rest) : skipTail (f ++ (e ++ rest)) = .ok rest := by
  cases hf with
  | none => exact skipTail_exponent he hr
  | digits hds =>
    have hskip := skipDigits_append hds (he.head hr)
    rw [List.cons_append]
    simp only [skipTail, hskip]
    cases he with
    | none =>
      cases rest with
      | nil => rfl
      | cons c rest =>
        obtain ⟨-, -, hc, hC⟩ := hr
        rw [List.nil_append]
        split <;> simp_all
    | digits h hsign hds =>
      have hexp := skipExponent_append hsign hds hr.head
      rcases h with rfl | rfl <;> simpa using hexp

theorem skipTail_ok {s rest : List Char} (h : skipTail s = .ok rest) :
    ∃ f e, Fraction f ∧ Exponent e ∧ s = f ++ (e ++ rest) := by
  unfold skipTail at h
  split at h
  · next s =>
    split at h
    · cases h
    · next s' hs =>
      obtain ⟨ds, hds, rfl⟩ := skipDigits_eq_some hs
      obtain ⟨e, he, hs'⟩ := skipExponent_ok (.inl rfl) h
      exact ⟨'.' :: ds, e, .digits hds, he, by rw [hs']; rfl⟩
    · next s' hs =>
      obtain ⟨ds, hds, rfl⟩ := skipDigits_eq_some hs
      obtain ⟨e, he, hs'⟩ := skipExponent_ok (.inr rfl) h
      exact ⟨'.' :: ds, e, .digits hds, he, by rw [hs']; rfl⟩
    · next s' hs =>
      obtain ⟨ds, hds, rfl⟩ := skipDigits_eq_some hs
      cases h
      exact ⟨'.' :: ds, [], .digits hds, .none, rfl⟩
  · obtain ⟨e, he, hs⟩ := skipExponent_ok (.inl rfl) h
    exact ⟨[], e, .none, he, hs⟩
  · obtain ⟨e, he, hs⟩ := skipExponent_ok (.inr rfl) h
    exact ⟨[], e, .none, he, hs⟩
  · cases h
    exact ⟨[], [], .none, .none, rfl⟩

theorem skipNumber_unsigned (n : Numeral) {rest : List Char} (hr : NoMore rest) :
    skipNumber (n.unsigned ++ rest) = .ok rest := by
  rw [Numeral.unsigned, List.append_assoc, List.append_assoc,
    skipNumber_whole n.isWhole (n.isFraction.head n.isExponent hr),
    skipTail_append n.isFraction n.isExponent hr]

theorem exists_numeral_of_skipNumber {s rest : List Char} (h : skipNumber s = .ok rest)
    (negative : Bool) : ∃ n : Numeral, n.negative = negative ∧ s = n.unsigned ++ rest := by
  obtain ⟨w, s', hw, hs, h⟩ := skipNumber_ok h
  obtain ⟨f, e, hf, he, rfl⟩ := skipTail_ok h
  exact ⟨⟨negative, w, f, e, hw, hf, he⟩, rfl, by simp [Numeral.unsigned, hs]⟩

def IsFloat (x : Except Stop (Number × List Char)) : Prop :=
  ∀ n r, x ≠ .ok (.natural n, r)

theorem isFloat_finish (positive : Bool) (m : Nat) (e : Int) (s : List Char) :
    IsFloat (finish positive m e s) := by
  intro n r h
  unfold finish at h
  split at h <;> cases h

theorem isFloat_readExponent (positive : Bool) (m : Nat) (e : Int) (s : List Char) :
    IsFloat (readExponent positive m e s) := by
  intro n r h
  unfold readExponent at h
  dsimp only at h
  split at h
  · cases h
  split at h
  · cases h
  split at h
  · exact isFloat_finish _ _ _ _ n r h
  · rw [ite_eq_iff] at h
    rcases h with ⟨-, h⟩ | ⟨-, h⟩ <;> cases h

theorem isFloat_readScale (positive : Bool) (m : Nat) (e : Int) (s : List Char) :
    IsFloat (readScale positive m e s) := by
  intro n r h
  unfold readScale at h
  split at h
  · exact isFloat_readExponent _ _ _ _ n r h
  · exact isFloat_readExponent _ _ _ _ n r h
  · exact isFloat_finish _ _ _ _ n r h

theorem isFloat_readFraction (positive : Bool) (m : Nat) (e : Int) (s : List Char) :
    IsFloat (readFraction positive m e s) := by
  intro n r h
  unfold readFraction at h
  dsimp only at h
  split at h
  · exact isFloat_readScale _ _ _ _ n r h
  split at h
  · cases h
  · exact isFloat_readScale _ _ _ _ n r h

theorem absorb_eq {s rest : List Char} {n m : Nat} (h : absorb n s = (m, rest)) :
    ∃ ds, (∀ c ∈ ds, isDigit c) ∧ s = ds ++ rest ∧
      m = ds.foldl (fun n c => 10 * n + digitValue c) n := by
  induction s generalizing n with
  | nil =>
    cases h
    exact ⟨[], by simp, rfl, rfl⟩
  | cons c s ih =>
    unfold absorb at h
    split at h
    · next hc =>
      rw [Bool.and_eq_true] at hc
      obtain ⟨ds, hds, rfl, hm⟩ := ih h
      exact ⟨c :: ds, List.forall_mem_cons.2 ⟨hc.1, hds⟩, rfl, hm⟩
    · cases h
      exact ⟨[], by simp, rfl, rfl⟩

theorem Whole.cons {c : Char} {ds : List Char} (hc : isDigit c) (hds : ∀ d ∈ ds, isDigit d)
    (hzero : c = '0' → ds = []) : Whole (c :: ds) := by
  by_cases h0 : c = '0'
  · rw [hzero h0, h0]
    exact .zero
  · exact .digits h0 ⟨List.cons_ne_nil c ds, List.forall_mem_cons.2 ⟨hc, hds⟩⟩

theorem Whole.exists_cons {w : List Char} (h : Whole w) :
    ∃ c ds, w = c :: ds ∧ isDigit c ∧ (∀ d ∈ ds, isDigit d) ∧ (c = '0' → ds = []) := by
  cases h with
  | zero => exact ⟨'0', [], rfl, rfl, by simp, fun _ => rfl⟩
  | @digits c ds hc hds =>
    obtain ⟨hdigit, hall⟩ := List.forall_mem_cons.1 hds.2
    exact ⟨c, ds, rfl, hdigit, hall, fun h => absurd h hc⟩

theorem whole_decimal (n : Nat) : Whole (decimal n) := by
  obtain ⟨c, s, hs, hc, hdigits, hzero⟩ := exists_decimal_eq_cons n
  rw [hs]
  exact .cons hc hdigits hzero

def Tree.ofNat (n : Nat) : Tree := .number ⟨false, decimal n, [], [], whole_decimal n, .none, .none⟩

theorem ofDigits_cons (c : Char) (ds : List Char) :
    ofDigits (c :: ds) = ds.foldl (fun n c => 10 * n + digitValue c) (digitValue c) := by
  rw [ofDigits, List.foldl_cons, Nat.mul_zero, Nat.zero_add]

theorem wholeNumber_natural {positive : Bool} {m n : Nat}
    (h : wholeNumber positive m = .natural n) : positive = true ∧ m = n := by
  unfold wholeNumber at h
  split at h
  · next hpositive =>
    cases h
    exact ⟨hpositive, rfl⟩
  · split at h <;> cases h

theorem noMore_dropWhile {s : List Char} (hpoint : ∀ r, s.dropWhile isDigit ≠ '.' :: r)
    (he : ∀ r, s.dropWhile isDigit ≠ 'e' :: r) (hE : ∀ r, s.dropWhile isDigit ≠ 'E' :: r) :
    NoMore (s.dropWhile isDigit) := by
  have hhead := head_dropWhile_isDigit s
  cases hs : s.dropWhile isDigit with
  | nil => trivial
  | cons c r =>
    rw [hs] at hhead hpoint he hE
    exact ⟨hhead, fun h => hpoint r (by rw [h]), fun h => he r (by rw [h]),
      fun h => hE r (by rw [h])⟩

theorem readNumber_natural {positive : Bool} {s rest : List Char} {n : Nat}
    (h : readNumber positive s = .ok (.natural n, rest)) :
    positive = true ∧ NoMore rest ∧ ∃ w, Whole w ∧ s = w ++ rest ∧ ofDigits w = n := by
  cases s with
  | nil => cases h
  | cons c s =>
    simp only [readNumber] at h
    split at h
    · cases h
    next hzero =>
    split at h
    · cases h
    next hdigit =>
    rw [Bool.not_eq_true', Bool.not_eq_false] at hdigit
    obtain ⟨ds, hds, hs, hm⟩ := absorb_eq (rfl : absorb (digitValue c) s = (_, _))
    split at h
    · exact absurd h (isFloat_readFraction _ _ _ _ n rest)
    · exact absurd h (isFloat_readExponent _ _ _ _ n rest)
    · exact absurd h (isFloat_readExponent _ _ _ _ n rest)
    next hpoint he hE =>
    split at h
    · next hnone =>
      obtain ⟨hnumber, hrest⟩ := Prod.mk.inj (Except.ok.inj h)
      obtain ⟨hpositive, hvalue⟩ := wholeNumber_natural hnumber
      have hkept : (absorb (digitValue c) s).2 = rest := by
        have hsplit := List.takeWhile_append_dropWhile (p := isDigit)
          (l := (absorb (digitValue c) s).2)
        rw [List.length_eq_zero_iff.1 hnone, List.nil_append, hrest] at hsplit
        exact hsplit.symm
      rw [hkept] at hs
      refine ⟨hpositive, ?_, c :: ds, .cons hdigit hds ?_, by rw [hs]; rfl, ?_⟩
      · rw [← hrest]
        exact noMore_dropWhile hpoint he hE
      · intro h0
        by_contra hne
        refine hzero ?_
        rw [hs, Digits.head ⟨hne, hds⟩, decide_eq_true h0]
        rfl
      · rw [← hvalue, hm, ofDigits_cons]
    · exact absurd h (isFloat_finish _ _ _ _ n rest)

theorem readNumber_whole {w rest : List Char} (hw : Whole w) (hr : NoMore rest)
    (h : ofDigits w < UInt64.size) :
    readNumber true (w ++ rest) = .ok (.natural (ofDigits w), rest) := by
  obtain ⟨c, ds, rfl, hc, hds, hzero⟩ := hw.exists_cons
  have hvalue := ofDigits_cons c ds
  have habsorb := absorb_append hds hr.head (digitValue c) (hvalue ▸ h)
  have hlead : (c = '0' && (ds ++ rest).head?.any isDigit) = false := by
    by_cases h0 : c = '0'
    · rw [hzero h0, List.nil_append, hr.head, Bool.and_false]
    · rw [decide_eq_false h0, Bool.false_and]
  simp only [List.cons_append, readNumber, hlead, hc, habsorb, ← hvalue]
  cases rest with
  | nil => rfl
  | cons d r =>
    obtain ⟨hd, hpoint, he, hE⟩ := hr
    simp [hd, wholeNumber, hpoint, he, hE]

theorem Fraction.eq_nil {f s : List Char} (hf : Fraction f) (h : NoMore (f ++ s)) : f = [] := by
  cases hf with
  | none => rfl
  | digits hds => exact absurd rfl h.2.1

theorem Exponent.eq_nil {e s : List Char} (he : Exponent e) (h : NoMore (e ++ s)) : e = [] := by
  cases he with
  | none => rfl
  | digits hmark hsign hds =>
    rcases hmark with rfl | rfl
    · exact absurd rfl h.2.2.1
    · exact absurd rfl h.2.2.2

/-- A text that goes on with a number in full and with a whole number that ends in it does so with
one number. -/
theorem Numeral.eq_of_whole (n : Numeral) {w r r' : List Char} (h : n.unsigned ++ r = w ++ r')
    (hw : Whole w) (hr : NoMore r) (hr' : NoMore r') :
    n.fraction = [] ∧ n.exponent = [] ∧ n.whole = w ∧ r = r' := by
  have hdigits {w : List Char} (hw : Whole w) : ∀ c ∈ w, isDigit c := by
    obtain ⟨c, ds, rfl, hc, hds, -⟩ := hw.exists_cons
    exact List.forall_mem_cons.2 ⟨hc, hds⟩
  rw [unsigned, List.append_assoc, List.append_assoc] at h
  have htail : n.fraction ++ (n.exponent ++ r) = r' := by
    rw [← dropWhile_isDigit_append (hdigits n.isWhole) (n.isFraction.head n.isExponent hr), h,
      dropWhile_isDigit_append (hdigits hw) hr'.head]
  have hfraction : n.fraction = [] := n.isFraction.eq_nil (htail ▸ hr')
  rw [hfraction, List.nil_append] at htail h
  have hexponent : n.exponent = [] := n.isExponent.eq_nil (htail ▸ hr')
  rw [hexponent, List.nil_append] at htail h
  rw [htail] at h
  exact ⟨hfraction, hexponent, List.append_cancel_right h, htail⟩

end FlowLines.Json
