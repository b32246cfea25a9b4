import FlowLines.Layout.JsonLines
import FlowLines.Layout.Line
import FlowLines.Layout.Logfmt
import FlowLines.Layout.Xml
import FlowLines.Text.Lowercase

/-! The formats that can be asked for by name. -/

namespace FlowLines

inductive Format
  | line
  | logfmt
  | jsonLines
  | xml
  deriving DecidableEq, Repr, Inhabited

namespace Format

def all : List Format := [line, logfmt, jsonLines, xml]

def name : Format → String
  | line => "line"
  | logfmt => "logfmt"
  | jsonLines => "jsonl"
  | xml => "xml"

def title : Format → String
  | line => "Line"
  | logfmt => "Logfmt"
  | jsonLines => "Jsonl"
  | xml => "Xml"

def ofName? (s : String) : Option Format := all.find? (·.name = s)

/-- Letters beyond ASCII count as they are. -/
def ofNameIgnoringAsciiCase? (s : String) : Option Format :=
  all.find? fun f => f.name.toList = s.toList.map Char.toLower

inductive Fault
  | unknown (name : String)
  deriving DecidableEq, Repr

def Fault.message : Fault → String
  | .unknown name => s!"Unknown output format: {name}"

def parse (s : String) : Except Fault Format :=
  match all.find? fun f => f.name.toList = Text.lowercase s.toList with
  | some f => .ok f
  | none => .error (.unknown s)

def layout (label : String) : Format → Layout
  | line => Layout.line label
  | logfmt => Layout.logfmt label
  | jsonLines => Layout.jsonLines label
  | xml => Layout.xml

end Format

def defaultLabel : String := "JS Proof!"

end FlowLines
