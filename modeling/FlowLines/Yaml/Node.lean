import FlowLines.Shape
import FlowLines.Text.Utf8
import FlowLines.Yaml.Alias
import FlowLines.Yaml.Scalar

/-! The value of a document: scalars, sequences and mappings. -/

namespace FlowLines.Yaml

/-- Members of a mapping are in the order of the document.  A tag is held without its exclamation
mark. -/
inductive Node
  | scalar (value : Scalar)
  | sequence (items : List Node)
  | mapping (members : List (Node × Node))
  | tagged (tag : List Char) (value : Node)

/-- What is no number equals itself here, and integers differ from floating-point numbers. -/
def Scalar.same : Scalar → Scalar → Bool
  | .null, .null => true
  | .boolean a, .boolean b => a = b
  | .integer a, .integer b => a = b
  | .float a, .float b => a == b || (a.isNaN && b.isNaN)
  | .text a, .text b => a = b
  | _, _ => false

namespace Node

mutual

/-- The order of members does not matter. -/
def same : Node → Node → Bool
  | .scalar a, .scalar b => a.same b
  | .sequence a, .sequence b => sameItems a b
  | .mapping a, .mapping b => a.length = b.length && sameMembers a b
  | .tagged s a, .tagged t b => s = t && same a b
  | _, _ => false

def sameItems : List Node → List Node → Bool
  | [], [] => true
  | a :: as, b :: bs => same a b && sameItems as bs
  | _, _ => false

def sameMembers : List (Node × Node) → List (Node × Node) → Bool
  | [], _ => true
  | (k, v) :: ms, b => b.any (fun m => same k m.1 && same v m.2) && sameMembers ms b

end

def isNull : Node → Bool
  | .scalar .null => true
  | _ => false

def untag : Node → Node
  | .tagged _ n => n.untag
  | n => n

def shape : Node → Shape
  | .scalar .null => .nothing
  | .scalar (.boolean b) => .boolean b
  | .scalar (.integer n) => .integer n
  | .scalar (.float x) => .float x
  | .scalar (.text s) => .text s
  | .sequence _ => .sequence
  | .mapping _ => .map
  | .tagged _ n => n.shape

end Node

inductive Tag
  | none
  | named (name : List Char)
  | boolean
  | integer
  | float
  | null
  | other

namespace Tag

def ofBytes? (tag : Option Bytes) : Tag :=
  match tag with
  | .none => .none
  | some bytes =>
    match Text.Utf8.decode bytes with
    | .error _ => if bytes.head? = some 33 then .none else .other
    | .ok ['!'] => .named ['!']
    | .ok ['!', '!'] => .named ['!']
    | .ok ('!' :: '!' :: name) => .named name
    | .ok ('!' :: name) => .named name
    | .ok name =>
      let core := ["bool", "int", "float", "null"].find? fun s =>
        name = "tag:yaml.org,2002:".toList ++ s.toList
      match core with
      | some "bool" => .boolean
      | some "int" => .integer
      | some "float" => .float
      | some "null" => .null
      | _ => .other

end Tag

def Scalar.ofTagged (plain : Bool) (text : List Char) : Tag → Option Scalar
  | .none => if plain then Scalar.ofPlain text else some (.text text)
  | .named _ => if plain then Scalar.ofPlain text else some (.text text)
  | .boolean => (Scalar.readBoolean text).map .boolean
  | .integer =>
    match Integer.ofText text with
    | .kept n => some (.integer n)
    | _ => none
  | .float => (Scalar.readFloat text).map .float
  | .null => if Scalar.isNull text then some .null else none
  | .other => some (.text text)

namespace Node

def withTag (tag : Tag) (n : Node) : Node :=
  match tag with
  | .named name => .tagged name n
  | _ => n

abbrev Budget := Nat

abbrev Built := Option (Node × Budget)

section

variable (build : Tree Nat → Budget → Built)

def buildItems : List (Tree Nat) → Budget → Option (List Node × Budget)
  | [], left => some ([], left)
  | t :: ts, left => do
    let (n, left) ← build t left
    let (ns, left) ← buildItems ts left
    return (n :: ns, left)

def buildMembers (done : List (Node × Node)) : List (Tree Nat × Tree Nat) → Budget →
    Option (List (Node × Node) × Budget)
  | [], left => some (done.reverse, left)
  | (k, v) :: ms, left => do
    let (k, left) ← build k left
    if done.any (·.1.same k) then none
    let (v, left) ← build v left
    buildMembers ((k, v) :: done) ms left

def follow (anchors : Anchors) (t : Tree Nat) (left : Budget) : Built :=
  match t with
  | .alias n =>
    match left with
    | 0 => none
    | left + 1 => do build (← anchors.node? n) left
  | t => build t left

end

def buildHere (anchors : Anchors) : (depth : Nat) → Tree Nat → Budget → Built
  | _, .alias _, _ => none
  | _, .scalar p plain text, left => do
    let tag := Tag.ofBytes? p.tag
    return (withTag tag (.scalar (← Scalar.ofTagged plain text tag)), left)
  | 0, _, _ => none
  | depth + 1, .sequence p items, left => do
    let (ns, left) ← buildItems (follow (buildHere anchors depth) anchors) items left
    return (withTag (Tag.ofBytes? p.tag) (.sequence ns), left)
  | depth + 1, .mapping p members, left => do
    let (ms, left) ← buildMembers (follow (buildHere anchors depth) anchors) [] members left
    return (withTag (Tag.ofBytes? p.tag) (.mapping ms), left)

def maxDepth : Nat := 128

/-- A hundred aliases may be followed for every mark and scalar. -/
def ofTree? (t : Tree (List Char)) : Option Node := do
  let (linked, anchors) ← t.link {}
  let (n, _) ← buildHere anchors maxDepth linked (100 * t.size)
  return n

def ofText? (text : List Char) : Option Node := do
  match ← Tree.ofTokens? (← Token.ofText? text) with
  | none => return .scalar .null
  | some t => ofTree? t

end Node

end FlowLines.Yaml
