import FlowLines.Json.Text

/-! Writing JSON: objects of strings and natural numbers, without spaces. -/

namespace FlowLines.Json

inductive Scalar
  | text (value : String)
  | natural (value : Nat)
  deriving DecidableEq, Repr

def Scalar.write : Scalar → List Char
  | .text s => writeString s.toList
  | .natural n => FlowLines.Text.decimal n

abbrev Object := List (String × Scalar)

def writeMember (m : String × Scalar) : List Char := writeString m.1.toList ++ ':' :: m.2.write

def writeObject (o : Object) : List Char :=
  '{' :: [','].intercalate (o.map writeMember) ++ ['}']

end FlowLines.Json
