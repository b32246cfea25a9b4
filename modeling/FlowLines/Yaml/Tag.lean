import FlowLines.Text.Digits
import FlowLines.Text.Utf8
import FlowLines.Yaml.Cursor

/-! Names in a document: anchors, tags, and the directives at its head.  Tags may hold escaped
octets, so they are bytes. -/

namespace FlowLines.Yaml

abbrev Bytes := List UInt8

def readAnchor (c : Cursor) : Option (List Char × Cursor) :=
  let c := c.skip 1
  let name := c.rest.takeWhile isWord
  let c := c.skip name.length
  if name.isEmpty then none
  else if c.gapAt 0 || ['?', ':', ',', ']', '}', '%', '@', '`'].any c.sees then some (name, c)
  else none

namespace Tag

def isUri (verbatim : Bool) (c : Char) : Bool :=
  isWord c || ";/?:@&=+$.%!~*'()".toList.contains c ||
    (verbatim && (c = ',' || c = '[' || c = ']'))

def readOctet (c : Cursor) : Option (UInt8 × Cursor) := do
  if !c.sees '%' then none
  let digits := (c.rest.drop 1).take 2
  if digits.length < 2 then none
  return (UInt8.ofNat (← Text.ofBase? 16 digits), c.skip 3)

def octetCount? (b : UInt8) : Option Nat :=
  if b &&& 0x80 = 0 then some 1
  else if b &&& 0xE0 = 0xC0 then some 2
  else if b &&& 0xF0 = 0xE0 then some 3
  else if b &&& 0xF8 = 0xF0 then some 4
  else none

def readOctets : Nat → Cursor → Option (Bytes × Cursor)
  | 0, c => some ([], c)
  | n + 1, c => do
    let (b, c) ← readOctet c
    if b &&& 0xC0 ≠ 0x80 then none
    let (bs, c) ← readOctets n c
    return (b :: bs, c)

def readEscaped (c : Cursor) : Option (Bytes × Cursor) := do
  let (b, c) ← readOctet c
  let (bs, c) ← readOctets ((← octetCount? b) - 1) c
  return (b :: bs, c)

def readUriFrom (verbatim : Bool) : (bound : List Char) → (done : Bytes) → Cursor →
    Option (Bytes × Cursor)
  | [], done, c => some (done.reverse, c)
  | _ :: bound, done, c =>
    match c.rest with
    | [] => some (done.reverse, c)
    | ch :: _ =>
      if !isUri verbatim ch then some (done.reverse, c)
      else if ch = '%' then do
        let (bs, c) ← readEscaped c
        readUriFrom verbatim bound (bs.reverse ++ done) c
      else readUriFrom verbatim bound ((Text.Utf8.encode [ch]).reverse ++ done) (c.skip 1)

/-- A zero octet ends the tag. -/
def readUri (verbatim : Bool) (behind : Bytes) (c : Cursor) : Option (Bytes × Cursor) := do
  let (bs, after) ← readUriFrom verbatim c.rest behind.reverse c
  return (bs.takeWhile (· ≠ 0), after)

def readHandle (c : Cursor) : Option (List Char × Cursor) :=
  if !c.sees '!' then none
  else
    let name := (c.rest.drop 1).takeWhile isWord
    let c := c.skip (1 + name.length)
    if c.sees '!' then some ('!' :: name ++ ['!'], c.skip 1) else some ('!' :: name, c)

/-- Without a handle a tag is complete. -/
structure Written where
  handle : Option (List Char)
  suffix : Bytes

def primaryHandle : List Char := ['!']

/-- All of a tag stands between brackets, or it has a handle, or it is behind one exclamation mark,
which may also stand alone. -/
def readWritten (c : Cursor) : Option (Written × Cursor) := do
  if c.at? 1 = some '<' then
    let start := c.skip 2
    let (suffix, c) ← readUri true [] start
    if c.index = start.index || !c.sees '>' then none
    return (⟨none, suffix⟩, c.skip 1)
  else
    let (handle, start) ← readHandle c
    if 1 < handle.length && handle.getLast? = some '!' then
      let (suffix, c) ← readUri false [] start
      if c.index = start.index then none
      return (⟨some handle, suffix⟩, c)
    else
      let (suffix, c) ← readUri false (Text.Utf8.encode handle.tail) start
      if suffix.isEmpty then return (⟨none, Text.Utf8.encode primaryHandle⟩, c)
      return (⟨some primaryHandle, suffix⟩, c)

/-- Between brackets a comma may follow a tag, else only a gap. -/
def read (inFlow : Bool) (c : Cursor) : Option (Written × Cursor) := do
  let (tag, c) ← readWritten c
  if c.gapAt 0 || (inFlow && c.sees ',') then return (tag, c) else none

end Tag

inductive Directive
  | version (major minor : Nat)
  | shorthand (handle : List Char) (uri : Bytes)

namespace Directive

def readNumber (c : Cursor) : Option (Nat × Cursor) :=
  let digits := c.rest.takeWhile Text.isDigit
  if digits.isEmpty || 9 < digits.length then none
  else some (Text.ofDigits digits, c.skip digits.length)

def readVersion (c : Cursor) : Option (Directive × Cursor) := do
  let (major, c) ← readNumber (c.skipWhile isBlank)
  if !c.sees '.' then none
  let (minor, c) ← readNumber (c.skip 1)
  return (.version major minor, c)

def readTagHandle (c : Cursor) : Option (Directive × Cursor) := do
  let (handle, c) ← Tag.readHandle (c.skipWhile isBlank)
  if 1 < handle.length && handle.getLast? ≠ some '!' then none
  if !c.rest.head?.any isBlank then none
  let start := c.skipWhile isBlank
  let (uri, c) ← Tag.readUri true [] start
  if c.index = start.index || !c.gapAt 0 then none
  return (.shorthand handle uri, c)

def read (c : Cursor) : Option (Directive × Cursor) := do
  let c := c.skip 1
  let name := c.rest.takeWhile isWord
  let c := c.skip name.length
  if !c.gapAt 0 then none
  let (directive, c) ←
    if name = "YAML".toList then readVersion c
    else if name = "TAG".toList then readTagHandle c
    else none
  let c := c.skipComment
  if !c.atLineEnd then none
  return (directive, c.skipBreak)

end Directive

end FlowLines.Yaml
