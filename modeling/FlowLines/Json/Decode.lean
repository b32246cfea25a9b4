import FlowLines.Json.Skip

/-! Reading values of a wanted kind.  The first thing that is wrong ends the reading, so faults
come in the order of the text. -/

namespace FlowLines.Json

/-- A scalar is read first, for the message tells it; of a list or an object only the bracket is
seen. -/
def mismatch (wanted : String) (s : List Char) : Stop :=
  let after {α : Type} (shape : α → Shape) : Except Stop (α × List Char) → Stop
    | .error stop => stop
    | .ok (x, r) => ⟨.mismatch (shape x) wanted, r, 0⟩
  let word (shape : Shape) (rest : Except Stop (List Char)) : Stop :=
    after (fun _ => shape) ((Unit.unit, ·) <$> rest)
  match s with
  | 'n' :: r => word .nothing (keyword "ull".toList r)
  | 't' :: r => word (.boolean true) (keyword "rue".toList r)
  | 'f' :: r => word (.boolean false) (keyword "alse".toList r)
  | '-' :: r => after Number.shape (readNumber false r)
  | '"' :: r => after Shape.text (readString r)
  | '[' :: _ => ⟨.mismatch .sequence wanted, s, 0⟩
  | '{' :: _ => ⟨.mismatch .map wanted, s, 0⟩
  | c :: _ =>
    if FlowLines.Text.isDigit c then after Number.shape (readNumber true s)
    else ⟨.expectedValue, s, 1⟩
  | [] => ⟨.expectedValue, [], 0⟩

def readText (wanted : String) : Reader (List Char) := fun s =>
  match skipSpace s with
  | [] => .error ⟨.endInValue, [], 0⟩
  | '"' :: r => readString r
  | s => .error (mismatch wanted s)

def readNatural (bound : Nat) (wanted : String) : Reader Nat := fun s =>
  let visit : Number × List Char → Except Stop (Nat × List Char)
    | (.natural n, r) =>
      if n < bound then .ok (n, r) else .error ⟨.outOfRange n wanted, r, 0⟩
    | (.negative n, r) => .error ⟨.outOfRange n wanted, r, 0⟩
    | (.float x, r) => .error ⟨.mismatch (.float x) wanted, r, 0⟩
  match skipSpace s with
  | [] => .error ⟨.endInValue, [], 0⟩
  | '-' :: r => readNumber false r >>= visit
  | c :: r =>
    if FlowLines.Text.isDigit c then readNumber true (c :: r) >>= visit
    else .error (mismatch wanted (c :: r))

def readOptional {α : Type} (read : Reader α) : Reader (Option α) := fun s =>
  match skipSpace s with
  | 'n' :: r => (none, ·) <$> keyword "ull".toList r
  | s => (fun (x, r) => (some x, r)) <$> read s

inductive Next
  | member (rest : List Char)
  | done (rest : List Char)

def nextElement (first : Bool) (s : List Char) : Except Stop Next :=
  match skipSpace s with
  | [] => .error ⟨.endInList, [], 0⟩
  | ']' :: r => .ok (.done r)
  | c :: r =>
    if first then .ok (.member (c :: r))
    else if c = ',' then
      match skipSpace r with
      | [] => .error ⟨.endInValue, [], 0⟩
      | ']' :: r => .error ⟨.trailingComma, ']' :: r, 1⟩
      | r => .ok (.member r)
    else .error ⟨.expectedListCommaOrEnd, c :: r, 1⟩

def nextKey (first : Bool) (s : List Char) : Except Stop Next :=
  match skipSpace s with
  | [] => .error ⟨.endInObject, [], 0⟩
  | '}' :: r => .ok (.done r)
  | c :: r =>
    if first then
      if c = '"' then .ok (.member r) else .error ⟨.keyNoString, c :: r, 1⟩
    else if c = ',' then
      match skipSpace r with
      | [] => .error ⟨.endInValue, [], 0⟩
      | '"' :: r => .ok (.member r)
      | '}' :: r => .error ⟨.trailingComma, '}' :: r, 1⟩
      | r => .error ⟨.keyNoString, r, 1⟩
    else .error ⟨.expectedObjectCommaOrEnd, c :: r, 1⟩

def colon (s : List Char) : Except Stop (List Char) :=
  match skipSpace s with
  | [] => .error ⟨.endInObject, [], 0⟩
  | ':' :: r => .ok r
  | s => .error ⟨.expectedColon, s, 1⟩

def endOfList (s : List Char) : Except Stop (List Char) :=
  match skipSpace s with
  | [] => .error ⟨.endInList, [], 0⟩
  | ']' :: r => .ok r
  | ',' :: r =>
    match skipSpace r with
    | ']' :: r => .error ⟨.trailingComma, ']' :: r, 1⟩
    | r => .error ⟨.trailingCharacters, r, 1⟩
  | s => .error ⟨.trailingCharacters, s, 1⟩

/-- A refused member is told where its object would go on: a closing bracket right behind it is
passed. -/
def pastClose (s : List Char) : List Char :=
  match skipSpace s with
  | '}' :: r => r
  | s => s

/-- How an object is taken in: given what is known so far, a key is refused or has a reader for
its value. -/
abbrev Members (σ : Type) := List Char → σ → Except Cause (Reader σ)

def readMembersLoop {σ : Type} (members : Members σ) :
    (bound : List Char) → (first : Bool) → σ → Reader σ
  | [], _, _, _ => .error ⟨.endInObject, [], 0⟩
  | _ :: bound, first, known, s => do
    match ← nextKey first s with
    | .done r => .ok (known, r)
    | .member r =>
      let (key, r) ← readString r
      match members key known with
      | .error cause => .error ⟨cause, pastClose r, 0⟩
      | .ok read =>
        let (known, r) ← read (← colon r)
        readMembersLoop members bound false known r

def readMembers {σ : Type} (members : Members σ) (start : σ) : Reader σ := fun s =>
  readMembersLoop members s true start s

def readElementsLoop {α : Type} (read : Reader α) :
    (bound : List Char) → (first : Bool) → (done : List α) → Reader (List α)
  | [], _, _, _ => .error ⟨.endInList, [], 0⟩
  | _ :: bound, first, done, s => do
    match ← nextElement first s with
    | .done r => .ok (done.reverse, r)
    | .member r =>
      let (x, r) ← read r
      readElementsLoop read bound false (x :: done) r

def readList {α : Type} (read : Reader α) : Reader (List α) := fun s =>
  match skipSpace s with
  | [] => .error ⟨.endInValue, [], 0⟩
  | '[' :: r => readElementsLoop read r true [] r
  | s => .error (mismatch "a sequence" s)

def readAll {α : Type} (read : Reader α) (text : List Char) : Except Fault α :=
  match read text with
  | .error stop => .error (stop.locate text)
  | .ok (x, r) =>
    match skipSpace r with
    | [] => .ok x
    | r => .error (Stop.locate text ⟨.trailingCharacters, r, 1⟩)

end FlowLines.Json
