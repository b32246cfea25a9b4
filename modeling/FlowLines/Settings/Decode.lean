import FlowLines.Draft
import FlowLines.Settings.Basic
import FlowLines.Yaml.Node

/-! Reading settings from a document. -/

namespace FlowLines.Settings

open FlowLines.Yaml (Node)

structure SpanFault where
  text : List Char
  fault : Time.Span.Fault
  deriving DecidableEq, Repr

def SpanFault.message (f : SpanFault) : String :=
  let text := String.ofList f.text
  s!"Invalid duration '{text}': {f.fault.message}"

/-- Blanks around a length of time do not count. -/
def readSpan (text : List Char) : Except SpanFault Time.Span :=
  match Time.Span.parse (Text.trim text) with
  | .ok s => .ok s
  | .error fault => .error ⟨text, fault⟩

inductive Fault
  | unreadable (path : String) (fault : DeviceFault)
  | noDocument
  | mismatch (found : Shape) (wanted : String)
  | unknownFormat (name : String)
  | duplicate (key : String)
  | span (fault : SpanFault)

namespace Fault

def reason : Fault → String
  | unreadable _ fault => fault.text
  | noDocument => "not one well-formed document"
  | mismatch found wanted =>
    let shape := found.describe "unit value" .plain
    s!"invalid type: {shape}, expected {wanted}"
  | unknownFormat name =>
    let known := ", ".intercalate (Format.all.map fun f => "`" ++ f.name ++ "`")
    s!"unknown variant `{name}`, expected one of {known}"
  | duplicate key => s!"duplicate field `{key}`"
  | span fault => fault.message

def message : Fault → String
  | unreadable path fault => s!"Cannot read settings file '{path}': {fault.text}"
  | fault => s!"Invalid settings: {fault.reason}"

end Fault

inductive Key
  | label
  | format
  | resolve
  | resolveTimeout
  | hosts
  | startupMarker
  deriving DecidableEq, Repr

namespace Key

def all : List Key := [label, format, resolve, resolveTimeout, hosts, startupMarker]

def name : Key → String
  | label => "label"
  | format => "format"
  | resolve => "resolve"
  | resolveTimeout => "resolve_timeout"
  | hosts => "hosts"
  | startupMarker => "startup_marker"

def ofName? (s : String) : Option Key := all.find? (·.name = s)

def Value : Key → Type
  | label => String
  | format => Format
  | resolve => Bool
  | resolveTimeout => Time.Span
  | hosts => Host.Table
  | startupMarker => Option String

end Key

def readText (wanted : String) (n : Node) : Except Fault String :=
  match n.untag with
  | .scalar (.text s) => .ok (String.ofList s)
  | n => .error (.mismatch n.shape wanted)

def readBoolean (n : Node) : Except Fault Bool :=
  match n.untag with
  | .scalar (.boolean b) => .ok b
  | n => .error (.mismatch n.shape "a boolean")

/-- A format is a text, or the tag of nothing. -/
def readFormat (n : Node) : Except Fault Format :=
  let named (name : List Char) : Except Fault Format :=
    match Format.ofName? (String.ofList name) with
    | some f => .ok f
    | none => .error (.unknownFormat (String.ofList name))
  match n with
  | .scalar (.text s) => named s
  | .tagged tag value => do
    let f ← named tag
    if value.isNull then .ok f else .error (.mismatch value.shape "unit")
  | n => .error (.mismatch n.shape "a Value::Tagged enum")

def readHostsFrom (t : Host.Table) : List (Node × Node) → Except Fault Host.Table
  | [] => .ok t
  | (k, v) :: ms => do
    let host ← readText "a string" k
    let name ← readText "a string" v
    readHostsFrom (t.insert host name) ms

def readHosts (n : Node) : Except Fault Host.Table :=
  match n.untag with
  | .mapping ms => readHostsFrom [] ms
  | .scalar .null => .ok []
  | n => .error (.mismatch n.shape "a map")

def Key.read : (k : Key) → Node → Except Fault k.Value
  | .label, n => readText "a string" n
  | .format, n => readFormat n
  | .resolve, n => readBoolean n
  | .resolveTimeout, n => do
    match readSpan (← readText "a string" n).toList with
    | .ok s => .ok s
    | .error f => .error (.span f)
  | .hosts, n => readHosts n
  | .startupMarker, n => if n.isNull then .ok none else some <$> readText "a string" n

abbrev Given : Type := Draft Key.Value

def Given.toSettings (g : Given) : Settings :=
  let standard : Settings := {}
  { label := (g .label).getD standard.label
    format := (g .format).getD standard.format
    resolve := (g .resolve).getD standard.resolve
    resolveTimeout := (g .resolveTimeout).getD standard.resolveTimeout
    hosts := (g .hosts).getD standard.hosts
    startupMarker := (g .startupMarker).getD standard.startupMarker }

/-- A text that names no setting is passed over with its value. -/
def Given.readMembers (g : Given) : List (Node × Node) → Except Fault Given
  | [] => .ok g
  | (k, v) :: ms => do
    match Key.ofName? (← readText "field identifier" k) with
    | none => Given.readMembers g ms
    | some key =>
      if (g key).isSome then .error (.duplicate key.name)
      else Given.readMembers (g.set key (← key.read v)) ms

def ofNode (n : Node) : Except Fault Settings :=
  match n.untag with
  | .scalar .null => .ok {}
  | .mapping ms => Given.toSettings <$> Given.readMembers Draft.empty ms
  | n => .error (.mismatch n.shape "struct Settings")

structure Loaded where
  settings : Settings
  document : Node

def ofText (text : List Char) : Except Fault Loaded :=
  match Node.ofText? text with
  | none => .error .noDocument
  | some document => (⟨·, document⟩) <$> ofNode document

def ofFile (path : String) (content : Except DeviceFault (List UInt8)) : Except Fault Loaded :=
  match content with
  | .error fault => .error (.unreadable path fault)
  | .ok bytes =>
    match Text.Utf8.decode bytes with
    | .error _ => .error (.unreadable path ⟨.invalidData, "stream did not contain valid UTF-8"⟩)
    | .ok text => ofText text

end FlowLines.Settings
