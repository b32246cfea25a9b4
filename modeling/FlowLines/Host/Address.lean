import FlowLines.Text.Digits

/-! Internet addresses: reading them strictly, and their canonical texts. -/

namespace FlowLines.Host

inductive Address
  | v4 (octets : Vector UInt8 4)
  | v6 (groups : Vector UInt16 8)
  deriving DecidableEq, Repr

namespace Address

abbrev Reader (α : Type) := List Char → Option (α × List Char)

def readNumber (base width : Nat) (leadingZero : Bool) : Reader Nat := fun s =>
  let digits := s.takeWhile fun c => (Text.digitOfBase? base c).isSome
  if digits.length = 0 || width < digits.length then none
  else if !leadingZero && s.head? = some '0' && 1 < digits.length then none
  else (Text.ofBase? base digits).map (·, s.drop digits.length)

def readPart {α : Type} (separator : Char) (first : Bool) (read : Reader α) : Reader α := fun s =>
  if first then read s
  else match s with
    | c :: s => if c = separator then read s else none
    | [] => none

def readOctet (first : Bool) : Reader UInt8 := readPart '.' first fun s => do
  let (n, s) ← readNumber 10 3 false s
  if n < 256 then some (UInt8.ofNat n, s) else none

def readV4 : Reader (Vector UInt8 4) := fun s => do
  let (a, s) ← readOctet true s
  let (b, s) ← readOctet false s
  let (c, s) ← readOctet false s
  let (d, s) ← readOctet false s
  return (#v[a, b, c, d], s)

def readGroup (first : Bool) : Reader UInt16 := readPart ':' first fun s => do
  let (n, s) ← readNumber 16 4 true s
  return (UInt16.ofNat n, s)

def pairOctets (a b : UInt8) : UInt16 := a.toUInt16 <<< 8 ||| b.toUInt16

/-- Up to `room` groups; two of them may be an address of the older kind at the end, and the
flag tells whether they are. -/
def readGroups : (room : Nat) → (first : Bool) → List Char → List UInt16 × Bool × List Char
  | 0, _, s => ([], false, s)
  | room + 1, first, s =>
    match if 0 < room then readPart ':' first readV4 s else none with
    | some (v, s) => ([pairOctets v[0] v[1], pairOctets v[2] v[3]], true, s)
    | none =>
      match readGroup first s with
      | none => ([], false, s)
      | some (g, s) =>
        let (gs, old, s) := readGroups room false s
        (g :: gs, old, s)

def join (head tail : List UInt16) : Option (Vector UInt16 8) :=
  let groups := head ++ List.replicate (8 - head.length - tail.length) 0 ++ tail
  if h : groups.toArray.size = 8 then some ⟨groups.toArray, h⟩ else none

/-- The double colon stands for one group of zeros or more, and an address of the older kind
does not come before it. -/
def readV6 : Reader (Vector UInt16 8) := fun s => do
  let (head, old, s) := readGroups 8 true s
  if head.length = 8 then return (← join head [], s)
  else if old then none
  else match s with
    | ':' :: ':' :: s =>
      let (tail, _, s) := readGroups (7 - head.length) true s
      return (← join head tail, s)
    | _ => none

def parse (s : String) : Option Address :=
  match readV4 s.toList with
  | some (v, []) => some (.v4 v)
  | some _ => none
  | none =>
    match readV6 s.toList with
    | some (v, []) => some (.v6 v)
    | _ => none

def writeV4 (v : Vector UInt8 4) : List Char :=
  ['.'].intercalate (v.toList.map fun n => Text.decimal n.toNat)

def writeGroups (gs : List UInt16) : List Char :=
  [':'].intercalate (gs.map fun g => Text.hex g.toNat)

/-- Start and length of the longest run of zeros, the first of equally long ones. -/
def longestZeros (gs : List UInt16) : Nat × Nat :=
  let runs := (List.range gs.length).map fun i => (i, ((gs.drop i).takeWhile (· = 0)).length)
  runs.foldl (fun best run => if best.2 < run.2 then run else best) (0, 0)

/-- Lower-case groups without leading zeros.  The longest run of two zeros or more is left out,
and an address of the older kind keeps its points. -/
def writeV6 (v : Vector UInt16 8) : List Char :=
  let gs := v.toList
  if gs.take 6 = [0, 0, 0, 0, 0, 0xFFFF] then
    let octets (g : UInt16) : List Char :=
      Text.decimal (g.toNat / 256) ++ '.' :: Text.decimal (g.toNat % 256)
    "::ffff:".toList ++ ['.'].intercalate ((gs.drop 6).map octets)
  else
    let (start, length) := longestZeros gs
    if 1 < length then
      writeGroups (gs.take start) ++ ':' :: ':' :: writeGroups (gs.drop (start + length))
    else writeGroups gs

def text : Address → String
  | .v4 v => String.ofList (writeV4 v)
  | .v6 v => String.ofList (writeV6 v)

end Address

end FlowLines.Host
