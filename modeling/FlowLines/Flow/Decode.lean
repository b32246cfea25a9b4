import FlowLines.Flow.Field
import FlowLines.Text.Blank

/-! Reading records from JSON.  A record or a flow may be an object, with its fields by name, or a
list, with its fields in order. -/

namespace FlowLines.Flow

open FlowLines.Json

def readByte : Reader UInt8 := fun s =>
  (fun (n, r) => (UInt8.ofNat n, r)) <$> readNatural UInt8.size "u8" s

def readShort : Reader UInt16 := fun s =>
  (fun (n, r) => (UInt16.ofNat n, r)) <$> readNatural UInt16.size "u16" s

def readCount : Reader UInt64 := fun s =>
  (fun (n, r) => (UInt64.ofNat n, r)) <$> readNatural UInt64.size "u64" s

def readName : Reader String := fun s =>
  (fun (t, r) => (String.ofList t, r)) <$> readText "a string" s

def readInstant : Reader Time.Instant := fun s => do
  let (t, r) ← readText "an RFC 3339 formatted date and time string" s
  match Time.Instant.parse t with
  | .ok i => .ok (i, r)
  | .error f => .error ⟨.refused f.message, r, 0⟩

def Field.read : (f : Field) → Reader f.Value
  | .sourceHost | .destHost => readName
  | .sourcePort | .destPort => readShort
  | .byteCount => readCount
  | .nextHop => readOptional readName
  | .packetCount => readOptional readCount
  | .protocol | .tcpFlags | .tos => readOptional readByte
  | .sourceAs | .destAs | .snmpIn | .snmpOut => readOptional readShort
  | .firstSeen | .lastSeen => readOptional readInstant

/-- A field is given once, under whichever of its names.  Keys that name no field are passed
over with their values. -/
def entryMembers : Members Draft := fun key d =>
  match Field.ofName? (String.ofList key) with
  | none => .ok fun s => (d, ·) <$> skipValue s
  | some f =>
    if (d f).isSome then .error (.duplicate f.name)
    else .ok fun s => (fun (v, r) => (d.set f v, r)) <$> f.read s

def readEntryObject : Reader Entry := fun s => do
  let (d, r) ← readMembers entryMembers FlowLines.Draft.empty s
  match d.toEntry with
  | .ok e => .ok (e, r)
  | .error cause => .error ⟨cause, r, 0⟩

/-- A list may end where only fields follow that may be absent. -/
def readFields : (position : Nat) → List Field → Draft → Reader Draft
  | _, [], d, s => (d, ·) <$> endOfList s
  | position, f :: fs, d, s => do
    match ← nextElement (position = 0) s with
    | .member r =>
      let (v, r) ← f.read r
      readFields (position + 1) fs (d.set f v) r
    | .done r =>
      if f.absent?.isSome then .ok (d, r)
      else .error ⟨.tooShort position "struct FlowEntry with 16 elements", r, 0⟩

def readEntryList : Reader Entry := fun s => do
  let (d, r) ← readFields 0 Field.all FlowLines.Draft.empty s
  match d.toEntry with
  | .ok e => .ok (e, r)
  | .error cause => .error ⟨cause, r, 0⟩

def readEntry : Reader Entry := fun s =>
  match skipSpace s with
  | [] => .error ⟨.endInValue, [], 0⟩
  | '[' :: r => readEntryList r
  | '{' :: r => readEntryObject r
  | s => .error (mismatch "struct FlowEntry" s)

def recordMembers : Members (Option (List Entry)) := fun key flows =>
  if key = "flows".toList then
    match flows with
    | some _ => .error (.duplicate "flows")
    | none => .ok fun s => (fun (es, r) => (some es, r)) <$> readList readEntry s
  else .ok fun s => (flows, ·) <$> skipValue s

def readRecordList : Reader Record := fun s => do
  match ← nextElement true s with
  | .done r => .ok ({}, r)
  | .member r =>
    let (flows, r) ← readList readEntry r
    ({ flows }, ·) <$> endOfList r

/-- A record without flows is an empty one. -/
def readRecord : Reader Record := fun s =>
  match skipSpace s with
  | [] => .error ⟨.endInValue, [], 0⟩
  | '[' :: r => readRecordList r
  | '{' :: r =>
    (fun (flows, r) => ({ flows := flows.getD [] }, r)) <$> readMembers recordMembers none r
  | s => .error (mismatch "struct FlowRecord" s)

/-- Positions in faults count from the first character that is not blank. -/
def Record.ofLine (line : List Char) : Except Json.Fault Record :=
  readAll readRecord (Text.trim line)

end FlowLines.Flow
