import FlowLines.Decimal.Shortest

/-! Floating-point numbers as text: which digits is settled by the shortest decimal, how they are
laid out by a style. -/

namespace FlowLines.Decimal

/-- `positional` tells, from the place of the point behind the first digits, whether a number is
written without an exponent. -/
structure Style where
  positional : Int → Bool
  plusBeforeExponent : Bool
  tie : Tie
  infinity : List Char
  notANumber : List Char

def positionalText (d : Numeral) : List Char :=
  let digits := Nat.toDigits 10 d.digits
  let point := digits.length + d.exponent
  if 0 ≤ d.exponent then digits ++ List.replicate d.exponent.toNat '0' ++ ['.', '0']
  else if 0 < point then digits.take point.toNat ++ '.' :: digits.drop point.toNat
  else '0' :: '.' :: List.replicate (-point).toNat '0' ++ digits

def exponentText (plus : Bool) (d : Numeral) : List Char :=
  let digits := Nat.toDigits 10 d.digits
  let exponent := digits.length + d.exponent - 1
  let fraction := if digits.length ≤ 1 then [] else '.' :: digits.drop 1
  let sign := if exponent < 0 then ['-'] else if plus then ['+'] else []
  digits.take 1 ++ fraction ++ 'e' :: sign ++ Nat.toDigits 10 exponent.natAbs

def Style.render (style : Style) (x : Float) : List Char :=
  let bits := x.toBits.toNat
  let sign := if 0x8000000000000000 ≤ bits then ['-'] else []
  if x.isNaN then style.notANumber
  else if x.isInf then sign ++ style.infinity
  else match Binary.ofBits? (bits % 0x8000000000000000) with
    | none => sign ++ ['0', '.', '0']
    | some b =>
      let d := b.shortest style.tie
      let point := (Nat.toDigits 10 d.digits).length + d.exponent
      sign ++
        if style.positional point then positionalText d
        else exponentText style.plusBeforeExponent d

def Style.plain : Style := ⟨fun _ => true, false, .up, "inf".toList, "NaN".toList⟩

end FlowLines.Decimal
