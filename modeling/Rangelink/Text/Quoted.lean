import Rangelink.Text.Visible

/-! # Quoted text

A text in double quotes, in which the quote, the backslash and everything that
would not show on a line of its own is written as an escape.
-/
namespace Rangelink.Text

def hexDigits (n : Nat) : String := String.ofList (Nat.toDigits 16 n)

/-- A code point by its number, in braces. -/
def numberedEscape (c : Char) : String := "\\u\x7b" ++ hexDigits c.toNat ++ "\x7d"

def escape (c : Char) : String :=
  if c = '\x00' then "\\0"
  else if c = '\t' then "\\t"
  else if c = '\r' then "\\r"
  else if c = '\n' then "\\n"
  else if c = '\\' then "\\\\"
  else if c = '"' then "\\\""
  else if isExtender c || isFiller c || !isPrintable c then numberedEscape c
  else c.toString

def quoted (s : String) : String := "\"" ++ String.join (s.toList.map escape) ++ "\""

end Rangelink.Text
