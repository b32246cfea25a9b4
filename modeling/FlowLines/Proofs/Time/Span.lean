import FlowLines.Proofs.Except
import FlowLines.Proofs.Text.Digits
import FlowLines.Time.Span
import Mathlib.Data.List.TakeWhile

/-! Lengths of time with blanks around them.  A sum of amounts is the same with them and without;
a zero that needs no unit has to stand alone. -/

namespace FlowLines

namespace Text

theorem exists_trim (s : List Char) : ∃ lead trail, (∀ c ∈ lead, isBlank c) ∧
    (∀ c ∈ trail, isBlank c) ∧ s = lead ++ (trim s ++ trail) := by
  let rest := trimStart s
  refine ⟨s.takeWhile isBlank, (rest.reverse.takeWhile isBlank).reverse, ?_, ?_, ?_⟩
  · exact fun c hc => List.mem_takeWhile_imp hc
  · exact fun c hc => List.mem_takeWhile_imp (List.mem_reverse.1 hc)
  · have hrest : trim s ++ (rest.reverse.takeWhile isBlank).reverse = rest := by
      rw [trim, trimEnd, ← List.reverse_append, List.takeWhile_append_dropWhile,
        List.reverse_reverse]
    rw [hrest]
    exact List.takeWhile_append_dropWhile.symm

end Text

namespace Time.Span

open FlowLines.Text (isBlank isDigit digitValue isBlank_of_isDigit)

theorem isBlank_of_isUnitLetter {c : Char} (h : isUnitLetter c) : isBlank c = false := by
  have hc : 0x41 ≤ c.toNat ∧ c.toNat ≤ 0x7A ∨ c = 'µ' := by
    delta isUnitLetter Char.isAlpha Char.isUpper Char.isLower at h
    simp only [Bool.or_eq_true, Bool.and_eq_true, decide_eq_true_eq, ge_iff_le,
      UInt32.le_iff_toNat_le] at h
    rcases h with (h | h) | h
    · exact .inl ⟨h.1, Nat.le_trans h.2 (by decide)⟩
    · exact .inl ⟨Nat.le_trans (by decide) h.1, h.2⟩
    · exact .inr h
  rcases hc with hc | rfl
  · simp only [isBlank, Bool.or_eq_false_iff, Bool.and_eq_false_iff, decide_eq_false_iff_not,
      beq_eq_false_iff_ne]
    omega
  · rfl

theorem isDigit_of_isBlank {c : Char} (h : isBlank c) : isDigit c = false := by
  cases hc : isDigit c with
  | false => rfl
  | true => rw [isBlank_of_isDigit hc] at h; cases h

theorem isUnitLetter_of_isBlank {c : Char} (h : isBlank c) : isUnitLetter c = false := by
  cases hc : isUnitLetter c with
  | false => rfl
  | true => rw [isBlank_of_isUnitLetter hc] at h; cases h

/-- What is left of a text with blanks at its end: these are left as well, or read over. -/
def behind (blanks : List Char) : List Char → List Char
  | [] => []
  | c :: r => c :: (r ++ blanks)

def Amount.before (blanks : List Char) (a : Amount) : Amount :=
  { a with rest := behind blanks a.rest }

/-! What stands in a text does not depend on where faults are told to be. -/

section

variable {text text' blanks : List Char} (hblanks : ∀ c ∈ blanks, isBlank c)

include hblanks

theorem readFraction_blanks (f : Fraction) (mark : List Char) :
    (readFraction text f mark blanks).toOption =
      if f.denominator = 1 then none else some (f, []) := by
  induction blanks generalizing mark with
  | nil =>
    rw [readFraction]
    split <;> rfl
  | cons c r ih =>
    have hc := hblanks c List.mem_cons_self
    rw [readFraction, if_neg (by simp [isDigit_of_isBlank hc]), if_pos hc]
    exact ih (fun d hd => hblanks d (List.mem_cons_of_mem c hd)) r

theorem readFraction_append (f : Fraction) (mark mark' s : List Char) :
    (readFraction text f mark (s ++ blanks)).toOption =
      (readFraction text' f mark' s).toOption.map fun p => (p.1, behind blanks p.2) := by
  induction s generalizing f mark mark' with
  | nil =>
    rw [List.nil_append, readFraction_blanks hblanks, readFraction]
    split <;> rfl
  | cons c r ih =>
    rw [List.cons_append, readFraction, readFraction]
    split
    · cases fits (10 * f.denominator) with
      | error fault => rfl
      | ok denominator =>
        cases fits (10 * f.numerator + digitValue c) with
        | error fault => rfl
        | ok numerator => exact ih _ _ _
    split
    · exact ih f _ _
    split <;> rfl

theorem readAmount_blanks (whole : Nat) : readAmount text whole blanks = .ok ⟨whole, none, []⟩ := by
  induction blanks with
  | nil => rfl
  | cons c r ih =>
    have hc := hblanks c List.mem_cons_self
    rw [readAmount, if_neg (by simp [isDigit_of_isBlank hc]), if_pos hc]
    exact ih fun d hd => hblanks d (List.mem_cons_of_mem c hd)

theorem readAmount_append (whole : Nat) (s : List Char) :
    (readAmount text whole (s ++ blanks)).toOption =
      (readAmount text' whole s).toOption.map (Amount.before blanks) := by
  induction s generalizing whole with
  | nil =>
    rw [List.nil_append, readAmount_blanks hblanks]
    rfl
  | cons c r ih =>
    rw [List.cons_append, readAmount, readAmount]
    split
    · cases fits (10 * whole + digitValue c) with
      | error fault => rfl
      | ok whole => exact ih whole
    split
    · exact ih whole
    split
    · rfl
    split
    · rw [toOption_bind, toOption_bind,
        readFraction_append hblanks _ (c :: (r ++ blanks)) (c :: r) r]
      cases readFraction text' ⟨0, 1⟩ (c :: r) r <;> rfl
    · rfl

theorem nextNumber_append {lead : List Char} (hlead : ∀ c ∈ lead, isBlank c) (s : List Char) :
    (nextNumber text (lead ++ (s ++ blanks))).toOption =
      (nextNumber text' s).toOption.map (Option.map fun p => (p.1, p.2 ++ blanks)) := by
  unfold nextNumber
  rw [List.dropWhile_append_of_pos hlead, List.dropWhile_append]
  cases s.dropWhile isBlank with
  | nil =>
    have hall : blanks.dropWhile isBlank = [] := List.dropWhile_eq_nil_iff.2 hblanks
    simp only [List.isEmpty_nil, if_true, hall]
    rfl
  | cons c r =>
    simp only [List.isEmpty_cons, Bool.false_eq_true, if_false, List.cons_append]
    split <;> rfl

end

/-! Reading goes on behind what it has read. -/

section

variable {text s : List Char}

theorem readFraction_suffix {f : Fraction} {mark : List Char} {p : Fraction × List Char}
    (h : readFraction text f mark s = .ok p) : p.2 <:+ s := by
  induction s generalizing f mark with
  | nil =>
    rw [readFraction] at h
    split at h
    · cases h
    · cases h
      exact List.suffix_rfl
  | cons c r ih =>
    rw [readFraction] at h
    split at h
    · obtain ⟨_, -, h⟩ := bind_eq_ok h
      obtain ⟨_, -, h⟩ := bind_eq_ok h
      exact (ih h).trans (List.suffix_cons c r)
    split at h
    · exact (ih h).trans (List.suffix_cons c r)
    split at h
    · cases h
      exact List.suffix_rfl
    · cases h

theorem readAmount_suffix {whole : Nat} {a : Amount} (h : readAmount text whole s = .ok a) :
    a.rest <:+ s := by
  induction s generalizing whole with
  | nil =>
    cases h
    exact List.suffix_rfl
  | cons c r ih =>
    rw [readAmount] at h
    split at h
    · obtain ⟨_, -, h⟩ := bind_eq_ok h
      exact (ih h).trans (List.suffix_cons c r)
    split at h
    · exact (ih h).trans (List.suffix_cons c r)
    split at h
    · cases h
      exact List.suffix_rfl
    split at h
    · obtain ⟨p, hp, h⟩ := bind_eq_ok h
      cases h
      exact (readFraction_suffix hp).trans (List.suffix_cons c r)
    · cases h

theorem length_nextNumber {digit : Nat} {r : List Char}
    (h : nextNumber text s = .ok (some (digit, r))) : r.length < s.length := by
  unfold nextNumber at h
  split at h
  · cases h
  · next c rest hrest =>
    split at h
    · cases h
      have hle := (List.dropWhile_suffix isBlank (l := s)).length_le
      rw [hrest] at hle
      exact hle
    · cases h

end

section

variable {text text' blanks : List Char} (hblanks : ∀ c ∈ blanks, isBlank c)

include hblanks

theorem takeWhile_isUnitLetter_blanks : blanks.takeWhile isUnitLetter = [] := by
  cases blanks with
  | nil => rfl
  | cons c r =>
    have hc := isUnitLetter_of_isBlank (hblanks c List.mem_cons_self)
    exact List.takeWhile_cons_of_neg (by simp [hc])

theorem takeWhile_behind (rest : List Char) :
    (behind blanks rest).takeWhile isUnitLetter = rest.takeWhile isUnitLetter := by
  cases rest with
  | nil => rfl
  | cons c r =>
    rw [behind, ← List.cons_append, List.takeWhile_append,
      takeWhile_isUnitLetter_blanks hblanks, List.append_nil]
    split
    · next hall => rw [(List.takeWhile_prefix _).eq_of_length hall]
    · rfl

theorem dropWhile_behind (rest : List Char) : ∃ trail, (∀ c ∈ trail, isBlank c) ∧
    (behind blanks rest).dropWhile isUnitLetter = rest.dropWhile isUnitLetter ++ trail := by
  cases rest with
  | nil => exact ⟨[], by simp, rfl⟩
  | cons c r =>
    have hdrop : blanks.dropWhile isUnitLetter = blanks := by
      have happend := List.takeWhile_append_dropWhile (p := isUnitLetter) (l := blanks)
      rwa [takeWhile_isUnitLetter_blanks hblanks, List.nil_append] at happend
    refine ⟨blanks, hblanks, ?_⟩
    rw [behind, ← List.cons_append, List.dropWhile_append, hdrop]
    split
    · next hempty => rw [List.isEmpty_iff.1 hempty, List.nil_append]
    · rfl

theorem nextNumber_blanks : nextNumber text blanks = .ok none := by
  rw [nextNumber, List.dropWhile_eq_nil_iff.2 hblanks]

end

theorem sumFrom_append {text text' blanks : List Char} (hblanks : ∀ c ∈ blanks, isBlank c)
    {fuel fuel' : Nat} {s : List Char} (enough : s.length < fuel) (enough' : s.length < fuel')
    (total : Span) (digit : Nat) :
    (sumFrom text fuel total digit (s ++ blanks)).toOption =
      (sumFrom text' fuel' total digit s).toOption := by
  -- on the fuel, of which there is enough as long as it exceeds what is left
  induction fuel generalizing fuel' blanks s total digit with
  | zero => omega
  | succ fuel ih =>
    obtain ⟨fuel', rfl⟩ : ∃ n, fuel' = n + 1 := ⟨fuel' - 1, by omega⟩
    have hread : (readAmount text digit (s ++ blanks)).toOption =
        (readAmount text' digit s).toOption.map (Amount.before blanks) :=
      readAmount_append hblanks digit s
    rw [sumFrom, sumFrom, toOption_bind, toOption_bind, hread]
    cases hs : readAmount text' digit s with
    | error fault => rfl
    | ok amount =>
      obtain ⟨trail, htrail, hover⟩ := dropWhile_behind hblanks amount.rest
      have hadd (name : List Char) :
          addAmount total (amount.before blanks) name = addAmount total amount name := rfl
      simp only [toOption_ok, Option.map_some, Option.bind_some, hadd]
      simp only [Amount.before, takeWhile_behind hblanks, hover]
      cases hrest : amount.rest.dropWhile isUnitLetter with
      | nil =>
        cases trail with
        | nil => rfl
        | cons c r =>
          have hc := htrail c List.mem_cons_self
          have hnone : nextNumber text r = .ok none :=
            nextNumber_blanks fun d hd => htrail d (List.mem_cons_of_mem c hd)
          simp only [List.nil_append, isDigit_of_isBlank hc, hc, hnone, Bool.false_eq_true,
            if_false, if_true, ok_bind]
          exact congrArg Except.toOption (bind_pure _)
      | cons c r =>
        have hle := (List.dropWhile_suffix isUnitLetter (l := amount.rest)).length_le
        have hle' := (readAmount_suffix hs).length_le
        rw [hrest, List.length_cons] at hle
        simp only [List.cons_append]
        split
        · rw [toOption_bind, toOption_bind]
          congr 1
          funext total
          exact ih htrail (by omega) (by omega) total _
        split
        · rw [toOption_bind, toOption_bind]
          congr 1
          funext total
          have hnext : (nextNumber text (r ++ trail)).toOption =
              (nextNumber text' r).toOption.map (Option.map fun p => (p.1, p.2 ++ trail)) :=
            nextNumber_append htrail (List.forall_mem_nil _) r
          rw [toOption_bind, toOption_bind, hnext]
          match hn : nextNumber text' r with
          | .error fault => rfl
          | .ok none => rfl
          | .ok (some (d, s')) =>
            have hlt := length_nextNumber hn
            exact ih htrail (Nat.lt_trans hlt (by omega)) (Nat.lt_trans hlt (by omega)) total d
        · rfl

theorem parse_of_ne_zero {text : List Char} (h : text ≠ ['0']) : parse text =
    nextNumber text text >>= fun next =>
      match next with
      | none => .error .empty
      | some (digit, s) => sumFrom text text.length {} digit s := by
  unfold parse
  exact if_neg h

theorem toOption_parse_trim {text : List Char} (h : Text.trim text = ['0'] → text = ['0']) :
    (parse (Text.trim text)).toOption = (parse text).toOption := by
  by_cases hzero : text = ['0']
  · rw [hzero]
    rfl
  have htrim : Text.trim text ≠ ['0'] := fun heq => hzero (h heq)
  obtain ⟨lead, trail, hlead, htrail, htext⟩ := Text.exists_trim text
  generalize Text.trim text = core at htrim htext
  have hnext : (nextNumber text (lead ++ (core ++ trail))).toOption =
      (nextNumber core core).toOption.map (Option.map fun p => (p.1, p.2 ++ trail)) :=
    nextNumber_append htrail hlead core
  rw [← htext] at hnext
  rw [parse_of_ne_zero hzero, parse_of_ne_zero htrim, toOption_bind, toOption_bind, hnext]
  match hn : nextNumber core core with
  | .error fault => rfl
  | .ok none => rfl
  | .ok (some (digit, s)) =>
    have hlt := length_nextNumber hn
    have hle : core.length ≤ text.length := by
      rw [htext, List.length_append, List.length_append]
      omega
    exact (sumFrom_append htrail (Nat.lt_of_lt_of_le hlt hle) hlt {} digit).symm

/-- A zero with blanks around it is an amount of which the unit is missing. -/
theorem parse_padded_zero {text : List Char} (h : Text.trim text = ['0']) (padded : text ≠ ['0']) :
    parse text = .error (.unknownUnit [] 0) := by
  obtain ⟨lead, trail, hlead, htrail, htext⟩ := Text.exists_trim text
  rw [h, List.singleton_append] at htext
  have hnext : nextNumber text text = .ok (some (0, trail)) := by
    rw [nextNumber, htext, List.dropWhile_append_of_pos hlead]
    rfl
  have hlength : text.length = lead.length + trail.length + 1 := by
    rw [htext, List.length_append, List.length_cons, Nat.add_assoc]
  rw [parse_of_ne_zero padded, hnext, ok_bind]
  dsimp only
  rw [hlength, sumFrom, readAmount_blanks htrail]
  rfl

end Time.Span

end FlowLines
