import FlowLines.Text.Digits

/-! Bytes as UTF-8: the text they spell, or where they stop being one. -/

namespace FlowLines.Text.Utf8

/-- `length` is that of the ill-formed sequence; there is none when the bytes end in the middle of a
character. -/
structure Fault where
  index : Nat
  length : Option Nat
  deriving DecidableEq, Repr

def Fault.message (f : Fault) : String :=
  match f.length with
  | some n => s!"invalid utf-8 sequence of {n} bytes from index {f.index}"
  | none => s!"incomplete utf-8 byte sequence from index {f.index}"

def isTail (b : UInt8) : Bool := 0x80 ≤ b && b ≤ 0xBF

/-- The range of the second byte after a leading byte, which keeps out overlong forms,
surrogates and what lies beyond the last character. -/
def isSecond (lead b : UInt8) : Bool :=
  if lead = 0xE0 then 0xA0 ≤ b && b ≤ 0xBF
  else if lead = 0xED then 0x80 ≤ b && b ≤ 0x9F
  else if lead = 0xF0 then 0x90 ≤ b && b ≤ 0xBF
  else if lead = 0xF4 then 0x80 ≤ b && b ≤ 0x8F
  else isTail b

def tailBits (b : UInt8) : Nat := b.toNat % 0x40

def decodeFrom (index : Nat) (done : List Char) : List UInt8 → Except Fault (List Char)
  | [] => .ok done.reverse
  | a :: r =>
    if a < 0x80 then decodeFrom (index + 1) (Char.ofNat a.toNat :: done) r
    else if 0xC2 ≤ a && a ≤ 0xDF then
      match r with
      | [] => .error ⟨index, none⟩
      | b :: r =>
        if !isTail b then .error ⟨index, some 1⟩
        else decodeFrom (index + 2)
          (Char.ofNat (a.toNat % 0x20 * 0x40 + tailBits b) :: done) r
    else if 0xE0 ≤ a && a ≤ 0xEF then
      match r with
      | [] => .error ⟨index, none⟩
      | b :: r =>
        if !isSecond a b then .error ⟨index, some 1⟩
        else match r with
          | [] => .error ⟨index, none⟩
          | c :: r =>
            if !isTail c then .error ⟨index, some 2⟩
            else decodeFrom (index + 3)
              (Char.ofNat (a.toNat % 0x10 * 0x1000 + tailBits b * 0x40 + tailBits c) :: done) r
    else if 0xF0 ≤ a && a ≤ 0xF4 then
      match r with
      | [] => .error ⟨index, none⟩
      | b :: r =>
        if !isSecond a b then .error ⟨index, some 1⟩
        else match r with
          | [] => .error ⟨index, none⟩
          | c :: r =>
            if !isTail c then .error ⟨index, some 2⟩
            else match r with
              | [] => .error ⟨index, none⟩
              | d :: r =>
                if !isTail d then .error ⟨index, some 3⟩
                else decodeFrom (index + 4)
                  (Char.ofNat (a.toNat % 0x08 * 0x40000 + tailBits b * 0x1000 +
                    tailBits c * 0x40 + tailBits d) :: done) r
    else .error ⟨index, some 1⟩

def decode (bytes : List UInt8) : Except Fault (List Char) := decodeFrom 0 [] bytes

def encode (s : List Char) : List UInt8 := s.flatMap String.utf8EncodeChar

def size (s : List Char) : Nat := s.foldl (fun n c => n + c.utf8Size) 0

def take : (n : Nat) → List Char → List Char
  | _, [] => []
  | n, c :: r => if n = 0 then [] else c :: take (n - c.utf8Size) r

def drop : (n : Nat) → List Char → List Char
  | _, [] => []
  | n, c :: r => if n = 0 then c :: r else drop (n - c.utf8Size) r

theorem take_append_drop (n : Nat) (s : List Char) : take n s ++ drop n s = s := by
  induction s generalizing n with
  | nil => rfl
  | cons c r ih => by_cases h : n = 0 <;> simp [take, drop, h, ih]

end FlowLines.Text.Utf8
