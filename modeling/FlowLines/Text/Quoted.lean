import FlowLines.Text.Digits
import FlowLines.Text.GraphemeExtend
import FlowLines.Text.Unprintable

/-! A text between quotes, for messages and log lines: what would not show is written as an
escape. -/

namespace FlowLines.Text

def codePointEscape (c : Char) : List Char := ['\\', 'u', '{'] ++ hex c.toNat ++ ['}']

def quotedChar (c : Char) : List Char :=
  if c = '\x00' then ['\\', '0']
  else if c = '\t' then ['\\', 't']
  else if c = '\n' then ['\\', 'n']
  else if c = '\r' then ['\\', 'r']
  else if c = '\\' then ['\\', '\\']
  else if c = '"' then ['\\', '"']
  else if extendsGrapheme c then codePointEscape c
  else if isPrintable c then [c]
  else codePointEscape c

def quoted (s : List Char) : List Char := '"' :: s.flatMap quotedChar ++ ['"']

end FlowLines.Text
