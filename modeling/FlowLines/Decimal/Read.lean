import FlowLines.Text.Digits

/-! Decimal numbers with a point and an exponent, as floating-point numbers. -/

namespace FlowLines.Decimal

open FlowLines.Text (isDigit ofDigits)

/-- A number halfway between two neighbouring floating-point numbers has fewer digits than this,
so of those behind only counts whether they are all zeros. -/
def decisiveDigits : Nat := 800

/-- What lies far beyond the range of finite numbers on either side is settled without computing its
power of ten. -/
def nearest (digits : List Char) (exponent : Int) : Float :=
  let digits := digits.dropWhile (· = '0')
  let point := digits.length + exponent
  if digits.isEmpty || point < -400 then 0.0
  else if 400 < point then 1.0 / 0.0
  else
    let kept := digits.take decisiveDigits
    let kept := if (digits.drop decisiveDigits).all (· = '0') then kept else kept ++ ['1']
    let exponent := point - kept.length
    Float.ofScientific (ofDigits kept) (exponent < 0) exponent.natAbs

/-- With more than eighteen digits an exponent is so large that no digits before it could make up
for it. -/
def readExponentDigits (s : List Char) : Option Nat :=
  let digits := s.dropWhile (· = '0')
  if s.isEmpty || !s.all isDigit then none
  else some (if 18 < digits.length then Nat.pow 10 18 else ofDigits digits)

def readExponent (s : List Char) : Option Int :=
  match s with
  | '-' :: r => (readExponentDigits r).map fun n => -(n : Int)
  | '+' :: r => (readExponentDigits r).map fun n => (n : Int)
  | r => (readExponentDigits r).map fun n => (n : Int)

def read (s : List Char) : Option Float := do
  let whole := s.takeWhile isDigit
  let rest := s.drop whole.length
  let (fraction, rest) := match rest with
    | '.' :: r => (r.takeWhile isDigit, r.dropWhile isDigit)
    | r => ([], r)
  if whole.isEmpty && fraction.isEmpty then none
  let exponent ← match rest with
    | [] => some 0
    | c :: r => if c = 'e' || c = 'E' then readExponent r else none
  let x := nearest (whole ++ fraction) (exponent - fraction.length)
  if x.isInf then none else return x

end FlowLines.Decimal
