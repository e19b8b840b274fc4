import Scriptlet.Text.Combining
import Scriptlet.Text.Printable

/-! Quoted text: a delimiter, the characters with what cannot be shown escaped, and
the delimiter again. -/
namespace Scriptlet.Text

def escapedCodePoint (c : Char) : String :=
  "\\u\x7b" ++ String.ofList (Nat.toDigits 16 c.toNat) ++ "\x7d"

/-- Marks that join the character before them are escaped although they can be shown. -/
def escaped (delimiter : Char) (c : Char) : String :=
  if c = '\x00' then "\\0"
  else if c = '\t' then "\\t"
  else if c = '\r' then "\\r"
  else if c = '\n' then "\\n"
  else if c = '\\' then "\\\\"
  else if c = delimiter then String.ofList ['\\',c]
  else if isCombining c then escapedCodePoint c
  else if isPrintable c then String.singleton c
  else escapedCodePoint c

def quoted (text : String) : String :=
  "\"" ++ String.join (text.toList.map (escaped '"')) ++ "\""

def quotedChar (c : Char) : String :=
  "'" ++ escaped '\'' c ++ "'"

end Scriptlet.Text
