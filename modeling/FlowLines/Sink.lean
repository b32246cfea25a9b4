import FlowLines.DeviceFault

/-! Where the lines go: bytes in order, on a device that may be full or refuse to be flushed. -/

namespace FlowLines

/-- `room` is how many more bytes fit, without a limit if it is `none`. -/
structure Sink where
  stored : Array UInt8 := #[]
  room : Option Nat := none
  fullFault : DeviceFault := ⟨.other, "no room left"⟩
  flushFault : Option DeviceFault := none
  flushes : Nat := 0
  deriving DecidableEq, Repr

namespace Sink

def accept (bytes : List UInt8) (s : Sink) : Sink :=
  { s with stored := s.stored ++ bytes, room := s.room.map (· - bytes.length) }

/-- Stores the bytes that fit, and fails if that is not all of them. -/
def write (bytes : List UInt8) (s : Sink) : Except DeviceFault Unit × Sink :=
  match s.room with
  | none => (.ok (), s.accept bytes)
  | some room =>
    if bytes.length ≤ room then (.ok (), s.accept bytes)
    else (.error s.fullFault, s.accept (bytes.take room))

/-- Every flush counts, also one that fails. -/
def flush (s : Sink) : Except DeviceFault Unit × Sink :=
  let s := { s with flushes := s.flushes + 1 }
  match s.flushFault with
  | none => (.ok (), s)
  | some fault => (.error fault, s)

theorem toList_accept (bytes : List UInt8) (s : Sink) :
    (s.accept bytes).stored.toList = s.stored.toList ++ bytes := by
  simp [accept]

theorem write_of_no_limit (bytes : List UInt8) {s : Sink} (h : s.room = none) :
    s.write bytes = (.ok (), s.accept bytes) := by
  simp [write, h]

end Sink

end FlowLines
