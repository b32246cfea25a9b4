/-! The shortest decimal that reads back as a given binary floating-point number. -/

namespace FlowLines.Decimal

/-- A finite positive number `mantissa · 2 ^ exponent` together with how far the numbers that
round to it reach: half a step up, and half a step down, where the step below a power of two is
half as long.  The ends belong to it when the mantissa is even. -/
structure Binary where
  mantissa : Nat
  exponent : Int
  narrowBelow : Bool

def Binary.ofBits? (bits : Nat) : Option Binary :=
  let fraction : Nat := bits % 0x10000000000000
  let biased : Nat := bits / 0x10000000000000 % 0x800
  if biased = 0x7FF then none
  else if biased = 0 then
    if fraction = 0 then none else some ⟨fraction, -1074, false⟩
  else some ⟨0x10000000000000 + fraction, (biased : Int) - 1075, fraction == 0 && 1 < biased⟩

structure Numeral where
  digits : Nat
  exponent : Int
  deriving DecidableEq, Repr

/-- Which of two equally near numerals is taken: the even one, or the one further from zero. -/
inductive Tie
  | even
  | up
  deriving DecidableEq, Repr

def Tie.goesDown (tie : Tie) (floor : Nat) : Bool := tie = .even && floor % 2 = 0

/-- The `k` with `10 ^ (k - 1) ≤ num / den < 10 ^ k`. -/
def magnitude (num den : Nat) : Int :=
  if den ≤ num then (Nat.toDigits 10 (num / den)).length
  else 1 - (Nat.toDigits 10 ((den - 1) / num)).length

/-- The point of the grid `10 ^ exponent` that lies in the interval of `b` and is nearest to
`b`. -/
def Binary.onGrid? (b : Binary) (tie : Tie) (exponent : Int) : Option Numeral :=
  let up := Nat.pow 2 (b.exponent - 2).toNat * Nat.pow 10 (-exponent).toNat
  let down := Nat.pow 2 (2 - b.exponent).toNat * Nat.pow 10 exponent.toNat
  let value := 4 * b.mantissa * up
  let low := (4 * b.mantissa - if b.narrowBelow then 1 else 2) * up
  let high := (4 * b.mantissa + 2) * up
  let inside (x : Nat) : Bool :=
    if b.mantissa % 2 = 0 then low ≤ x && x ≤ high else low < x && x < high
  let floor := value / down
  let below := floor * down
  let above := (floor + 1) * down
  match inside below && 0 < floor, inside above with
  | true, true =>
    if value - below < above - value || (value - below = above - value && tie.goesDown floor)
    then some ⟨floor, exponent⟩ else some ⟨floor + 1, exponent⟩
  | true, false => some ⟨floor, exponent⟩
  | false, true => some ⟨floor + 1, exponent⟩
  | false, false => none

def Numeral.dropZeros : Nat → Numeral → Numeral
  | 0, d => d
  | n + 1, d => if d.digits % 10 = 0 then dropZeros n ⟨d.digits / 10, d.exponent + 1⟩ else d

/-- The coarsest grid with a point in the interval gives the digits; seventeen always do.  A value
just below a power of ten may round up to it, whose zeros are no digits. -/
def Binary.shortest (b : Binary) (tie : Tie) : Numeral :=
  let num := b.mantissa * Nat.pow 2 b.exponent.toNat
  let den := Nat.pow 2 (-b.exponent).toNat
  let k := magnitude num den
  let d := (List.range 17).findSome? fun n => b.onGrid? tie (k - (n + 1 : Nat))
  (d.getD ⟨0, 0⟩).dropZeros 17

end FlowLines.Decimal
