import UserConfigs.Text.Case
import UserConfigs.Text.Hidden

/-!
# Quoted texts

Two ways to put a text between double quotes. `quoted` is for messages : what would not
show is written as an escape. `jsonQuoted` is for JSON : only quotes, backslashes and
control characters are escaped.
-/

namespace UserConfigs.Text

/-- Hexadecimal digits of a number, lower case, no leading zeros. -/
def hex (n : Nat) : String := String.ofList (Nat.toDigits 16 n)

/-- How a message shows one character of a text. -/
def shown (c : Char) : String :=
  if c = '\x00' then "\\0"
  else if c = '\t' then "\\t"
  else if c = '\n' then "\\n"
  else if c = '\r' then "\\r"
  else if c = '\x22' then "\\\""
  else if c = '\x5c' then "\\\\"
  else if inRanges Hidden.ranges c.toNat then "\\u\x7b" ++ hex c.toNat ++ "\x7d"
  else c.toString

/-- A text as messages show it. -/
def quoted (s : String) : String :=
  "\"" ++ String.join (s.toList.map shown) ++ "\""

/-- One character of a JSON string. -/
def jsonShown (c : Char) : String :=
  if c = '\x22' then "\\\""
  else if c = '\x5c' then "\\\\"
  else if c = '\x08' then "\\b"
  else if c = '\x0c' then "\\f"
  else if c = '\n' then "\\n"
  else if c = '\r' then "\\r"
  else if c = '\t' then "\\t"
  else if c.toNat < 0x20 then
    "\\u00" ++ (if c.toNat < 0x10 then "0" else "") ++ hex c.toNat
  else c.toString

/-- A text as a JSON string. -/
def jsonQuoted (s : String) : String :=
  "\"" ++ String.join (s.toList.map jsonShown) ++ "\""

end UserConfigs.Text
