import FlowLines.Layout.Basic

/-! Lines of `key=value` pairs with spaces between them.  A value that could be taken for
something else stands between quotes. -/

namespace FlowLines.Layout.Logfmt

open FlowLines.Text (decimal)

def isPlain (c : Char) : Bool :=
  !(c = ' ' || c = '\t' || c = '\n' || c = '\r' || c = '\\' || c = '"' || c = '=')

def needsQuotes (value : List Char) : Bool := value.isEmpty || !value.all isPlain

def escapeChar (c : Char) : List Char :=
  if c = '\\' then ['\\', '\\']
  else if c = '"' then ['\\', '"']
  else if c = '\n' then ['\\', 'n']
  else if c = '\r' then ['\\', 'r']
  else [c]

def writeValue (value : List Char) : List Char :=
  if needsQuotes value then '"' :: value.flatMap escapeChar ++ ['"'] else value

def writePair (pair : String × String) : List Char :=
  pair.1.toList ++ '=' :: writeValue pair.2.toList

def writeFields (fields : List (String × String)) : List Char :=
  [' '].intercalate (fields.map writePair)

def fields (label : String) (shown : Shown) : List (String × String) :=
  let endPoint (host : String) (port : UInt16) : String :=
    String.ofList (host.toList ++ ':' :: decimal port.toNat)
  [("label", label), ("source", endPoint shown.source shown.flow.sourcePort),
    ("dest", endPoint shown.dest shown.flow.destPort),
    ("bytes", String.ofList (decimal shown.flow.byteCount.toNat))] ++ shown.flow.attributes

end Logfmt

def logfmt (label : String) : Layout where
  entry shown := .ok (String.ofList (Logfmt.writeFields (Logfmt.fields label shown)))
  marker m := String.ofList (Logfmt.writeFields [("label", label), ("msg", m)])

end FlowLines.Layout
