import FlowLines.Decimal.Read
import FlowLines.Decimal.Style
import FlowLines.Text.Digits

/-! What a scalar without quotes stands for: nothing, a truth value, a number or a text. -/

namespace FlowLines.Yaml

inductive Scalar
  | null
  | boolean (value : Bool)
  | integer (value : Int)
  | float (value : Float)
  | text (value : List Char)

namespace Scalar

def isNull (s : List Char) : Bool :=
  ["~", "null", "Null", "NULL"].any (·.toList = s)

def readBoolean (s : List Char) : Option Bool :=
  if ["true", "True", "TRUE"].any (·.toList = s) then some true
  else if ["false", "False", "FALSE"].any (·.toList = s) then some false
  else none

/-- Two digits or more of which the first is a zero are no number. -/
def hasLeadingZero (s : List Char) : Bool :=
  let digits := match s with
    | '-' :: r => r
    | '+' :: r => r
    | s => s
  1 < digits.length && digits.head? = some '0' && digits.all Text.isDigit

def basedDigits? : List Char → Option (Nat × List Char)
  | '0' :: 'x' :: r => some (16, r)
  | '0' :: 'o' :: r => some (8, r)
  | '0' :: 'b' :: r => some (2, r)
  | _ => none

/-- 128 digits are enough: a number with more has more than 128 bits in every base. -/
def readMagnitude (s : List Char) : Option Nat :=
  let (base, digits) := (basedDigits? s).getD (10, s)
  if 128 < (digits.dropWhile (· = '0')).length then none else Text.ofBase? base digits

def readInteger (s : List Char) : Option Int :=
  if hasLeadingZero s then none
  else match s with
    | '-' :: r => (readMagnitude r).map fun n => -(n : Int)
    | '+' :: r => (readMagnitude r).map fun n => (n : Int)
    | s => (readMagnitude s).map fun n => (n : Int)

def readSpecial (s : List Char) : Option Float :=
  let isInfinity (s : List Char) : Bool := [".inf", ".Inf", ".INF"].any (·.toList = s)
  match s with
  | '-' :: r => if isInfinity r then some (-(1.0 / 0.0)) else none
  | '+' :: r => if isInfinity r then some (1.0 / 0.0) else none
  | s =>
    if isInfinity s then some (1.0 / 0.0)
    else if [".nan", ".NaN", ".NAN"].any (·.toList = s) then some (0.0 / 0.0)
    else none

def readFloat (s : List Char) : Option Float :=
  match readSpecial s with
  | some x => some x
  | none =>
    match s with
    | '-' :: r => (Decimal.read r).map (- ·)
    | '+' :: r => Decimal.read r
    | s => Decimal.read s

end Scalar

/-- Integers have 64 bits.  Beyond that they are refused up to 128 bits, and larger ones are
floating-point numbers. -/
inductive Integer
  | kept (value : Int)
  | refused
  | none

namespace Integer

def fits (bits : Nat) (n : Int) : Bool :=
  if n < 0 then n.natAbs ≤ Nat.pow 2 (bits - 1) else n.natAbs < Nat.pow 2 bits

def ofText (s : List Char) : Integer :=
  match Scalar.readInteger s with
  | .none => .none
  | some n => if fits 64 n then .kept n else if fits 128 n then .refused else .none

end Integer

def Scalar.ofPlain (s : List Char) : Option Scalar :=
  if s.isEmpty || isNull s then some .null
  else match readBoolean s with
    | some b => some (.boolean b)
    | none =>
      match Integer.ofText s with
      | .kept n => some (.integer n)
      | .refused => none
      | .none =>
        if hasLeadingZero s then some (.text s)
        else match readFloat s with
          | some x => some (.float x)
          | none => some (.text s)

/-- Numbers from `10 ^ -5` to below `10 ^ 16` are written without an exponent. -/
def floatStyle : Decimal.Style :=
  ⟨fun point => -5 < point && point ≤ 16, false, .even, ".inf".toList, ".nan".toList⟩

end FlowLines.Yaml
