import FlowLines.Layout.Basic

/-! One XML element a line, which holds the attributes of the flow by name. -/

namespace FlowLines.Layout.Xml

open FlowLines.Text (decimal)

def escapeChar (c : Char) : List Char :=
  if c = '&' then "&amp;".toList
  else if c = '<' then "&lt;".toList
  else if c = '>' then "&gt;".toList
  else if c = '"' then "&quot;".toList
  else if c = '\'' then "&apos;".toList
  else if c = '\n' then "&#10;".toList
  else if c = '\r' then "&#13;".toList
  else [c]

def escape (s : List Char) : List Char := s.flatMap escapeChar

def element (tag : String) (content : List Char) : List Char :=
  '<' :: tag.toList ++ '>' :: content ++ '<' :: '/' :: tag.toList ++ ['>']

def pairElement (pair : String × String) : List Char :=
  element "attribute"
    (element "name" (escape pair.1.toList) ++ element "value" (escape pair.2.toList))

def fields (shown : Shown) : List (String × String) :=
  [("sourceAddr", shown.source),
    ("sourcePort", String.ofList (decimal shown.flow.sourcePort.toNat)),
    ("destAddr", shown.dest), ("destPort", String.ofList (decimal shown.flow.destPort.toNat)),
    ("numOctets", String.ofList (decimal shown.flow.byteCount.toNat))] ++ shown.flow.attributes

def entry (shown : Shown) : List Char := element "flow" ((fields shown).flatMap pairElement)

/-- Parts two dashes that follow each other, pair by pair from the left. -/
def partDashes : List Char → List Char
  | '-' :: '-' :: r => '-' :: ' ' :: '-' :: partDashes r
  | c :: r => c :: partDashes r
  | [] => []

/-- A comment, so that the lines stay a sequence of elements. -/
def comment (s : List Char) : List Char := "<!-- ".toList ++ partDashes s ++ " -->".toList

end Xml

/-- An element has no place for a label. -/
def xml : Layout where
  entry shown := .ok (String.ofList (Xml.entry shown))
  marker m := String.ofList (Xml.comment m.toList)

end FlowLines.Layout
