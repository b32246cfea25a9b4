import FlowLines.Yaml.Token

/-! A document as a tree, with its anchors, aliases and tags as they are written. -/

namespace FlowLines.Yaml

structure Properties where
  anchor : Option (List Char) := none
  tag : Option Bytes := none

/-- `α` is how an alias tells what it stands for. -/
inductive Tree (α : Type)
  | alias (target : α)
  | scalar (properties : Properties) (plain : Bool) (text : List Char)
  | sequence (properties : Properties) (items : List (Tree α))
  | mapping (properties : Properties) (members : List (Tree α × Tree α))

def Tree.blank {α : Type} : Tree α := .scalar {} true []

abbrev Handles := List (List Char × Bytes)

def Handles.default : Handles :=
  [(['!'], Text.Utf8.encode ['!']), (['!', '!'], Text.Utf8.encode "tag:yaml.org,2002:".toList)]

def Tag.Written.complete (handles : Handles) (t : Tag.Written) : Option Bytes :=
  match t.handle with
  | none => some t.suffix
  | some handle => (handles.lookup handle).map (· ++ t.suffix)

namespace Tree

abbrev Reader (α : Type) := List Token → Option (α × List Token)

def readProperties (handles : Handles) : Reader Properties
  | .anchor name :: .tag t :: ts => do
    return ({ anchor := name, tag := ← t.complete handles }, ts)
  | .tag t :: .anchor name :: ts => do
    return ({ anchor := name, tag := ← t.complete handles }, ts)
  | .anchor name :: ts => some ({ anchor := name }, ts)
  | .tag t :: ts => do return ({ tag := ← t.complete handles }, ts)
  | ts => some ({}, ts)

/-- Where a node may be left out in a block: before the next entry, key or value, or the end. -/
def endsEntry : List Token → Bool
  | .blockEntry :: _ => true
  | .blockEnd :: _ => true
  | _ => false

def endsMember : List Token → Bool
  | .key :: _ => true
  | .value :: _ => true
  | .blockEnd :: _ => true
  | _ => false

def endsItem : List Token → Bool
  | .flowEntry :: _ => true
  | .flowSequenceEnd :: _ => true
  | _ => false

def endsPair : List Token → Bool
  | .flowEntry :: _ => true
  | .flowMappingEnd :: _ => true
  | _ => false

def startsValue : List Token → Bool
  | .value :: _ => true
  | _ => false

def passComma (first : Bool) : List Token → Option (List Token)
  | .flowEntry :: ts => if first then some (.flowEntry :: ts) else some ts
  | ts => if first then some ts else none

inductive Place
  | block
  | member
  | flow
  deriving DecidableEq

section

variable {α : Type} (node : Place → Reader (Tree α))

def nodeUnless (left : List Token → Bool) (place : Place) : Reader (Tree α) := fun ts =>
  if left ts then some (.blank, ts) else node place ts

def readEntries : (bound : List Token) → Reader (List (Tree α))
  | [], _ => none
  | _ :: bound, ts =>
    match ts with
    | .blockEntry :: ts => do
      let (t, ts) ← nodeUnless node endsEntry .block ts
      let (rest, ts) ← readEntries bound ts
      return (t :: rest, ts)
    | .blockEnd :: ts => some ([], ts)
    | _ => none

/-- Entries of a sequence that is no deeper than the mapping around it, and has no end of its
own. -/
def readFlatEntries : (bound : List Token) → Reader (List (Tree α))
  | [], ts => some ([], ts)
  | _ :: bound, ts =>
    match ts with
    | .blockEntry :: ts => do
      let (t, ts) ← nodeUnless node (fun ts => endsEntry ts || endsMember ts) .block ts
      let (rest, ts) ← readFlatEntries bound ts
      return (t :: rest, ts)
    | ts => some ([], ts)

def readValue (left : List Token → Bool) (place : Place) : Reader (Tree α)
  | .value :: ts => nodeUnless node left place ts
  | ts => some (.blank, ts)

def readMembers : (bound : List Token) → Reader (List (Tree α × Tree α))
  | [], _ => none
  | _ :: bound, ts =>
    match ts with
    | .key :: ts => do
      let (key, ts) ← nodeUnless node endsMember .member ts
      let (value, ts) ← readValue node endsMember .member ts
      let (rest, ts) ← readMembers bound ts
      return ((key, value) :: rest, ts)
    | .blockEnd :: ts => some ([], ts)
    | _ => none

/-- Where the key is left out the token behind the mark is passed. -/
def readPair : Reader (Tree α) := fun ts => do
  let (key, ts) ←
    if startsValue ts || endsItem ts then some (.blank, ts.tail) else node .flow ts
  let (value, ts) ← readValue node endsItem .flow ts
  return (.mapping {} [(key, value)], ts)

def readItems : (bound : List Token) → (first : Bool) → Reader (List (Tree α))
  | [], _, _ => none
  | _ :: bound, first, ts => do
    if let .flowSequenceEnd :: ts := ts then return ([], ts)
    let ts ← passComma first ts
    match ts with
    | .flowSequenceEnd :: ts => return ([], ts)
    | .key :: ts =>
      let (t, ts) ← readPair node ts
      let (rest, ts) ← readItems bound false ts
      return (t :: rest, ts)
    | ts =>
      let (t, ts) ← node .flow ts
      let (rest, ts) ← readItems bound false ts
      return (t :: rest, ts)

/-- A node alone is a key without a value. -/
def readPairs : (bound : List Token) → (first : Bool) → Reader (List (Tree α × Tree α))
  | [], _, _ => none
  | _ :: bound, first, ts => do
    if let .flowMappingEnd :: ts := ts then return ([], ts)
    let ts ← passComma first ts
    match ts with
    | .flowMappingEnd :: ts => return ([], ts)
    | .key :: ts =>
      let (key, ts) ← nodeUnless node (fun ts => startsValue ts || endsPair ts) .flow ts
      let (value, ts) ← readValue node endsPair .flow ts
      let (rest, ts) ← readPairs bound false ts
      return ((key, value) :: rest, ts)
    | ts =>
      let (key, ts) ← node .flow ts
      let (rest, ts) ← readPairs bound false ts
      return ((key, .blank) :: rest, ts)

end

/-- Every level of nodes begins with a token, so the tokens are a bound for the levels. -/
def readNode (handles : Handles) : (bound : List Token) → Place → Reader (Tree (List Char))
  | [], _, _ => none
  | _ :: bound, place, ts =>
    match ts with
    | .alias name :: ts => some (.alias name, ts)
    | ts => do
      let node := readNode handles bound
      let (p, ts) ← readProperties handles ts
      let missing : Option (Tree (List Char) × List Token) :=
        if p.anchor.isSome || p.tag.isSome then some (.scalar p true [], ts) else none
      match ts with
      | .scalar plain text :: ts => return (.scalar p plain text, ts)
      | .flowSequenceStart :: ts => do
        let (items, ts) ← readItems node ts true ts
        return (.sequence p items, ts)
      | .flowMappingStart :: ts => do
        let (members, ts) ← readPairs node ts true ts
        return (.mapping p members, ts)
      | .blockEntry :: _ =>
        if place = .member then do
          let (items, ts) ← readFlatEntries node ts ts
          return (.sequence p items, ts)
        else missing
      | .blockSequenceStart :: ts =>
        if place = .flow then missing
        else do
          let (items, ts) ← readEntries node ts ts
          return (.sequence p items, ts)
      | .blockMappingStart :: ts =>
        if place = .flow then missing
        else do
          let (members, ts) ← readMembers node ts ts
          return (.mapping p members, ts)
      | _ => missing

/-- At most one version, which is 1.1 or 1.2, and no handle twice. -/
def readDirectives : (version : Bool) → Handles → Reader Handles
  | seen, handles, .directive (.version major minor) :: ts =>
    if seen || major ≠ 1 || (minor ≠ 1 && minor ≠ 2) then none
    else readDirectives true handles ts
  | seen, handles, .directive (.shorthand handle uri) :: ts =>
    if (handles.lookup handle).isSome then none
    else readDirectives seen (handles ++ [(handle, uri)]) ts
  | _, handles, ts => some (handles ++ Handles.default, ts)

def endsStream : List Token → Bool
  | [] => true
  | .documentEnd :: ts => endsStream ts
  | _ => false

def startsDocument : List Token → Bool
  | [] => true
  | .directive _ :: _ => true
  | .documentStart :: _ => true
  | .documentEnd :: _ => true
  | _ => false

def ofTokens? (ts : List Token) : Option (Option (Tree (List Char))) := do
  let finish (r : Tree (List Char) × List Token) : Option (Option (Tree (List Char))) :=
    if endsStream r.2 then some (some r.1) else none
  match ts with
  | [] => return none
  | ts =>
    let (handles, after) ← readDirectives false [] ts
    match after with
    | .documentStart :: ts =>
      finish (← if startsDocument ts then some (.blank, ts)
        else readNode handles ts .block ts)
    | _ =>
      if after.length < ts.length then none
      else finish (← readNode handles ts .block ts)

end Tree

end FlowLines.Yaml
