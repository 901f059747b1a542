import OutlineLint.Text.Printable

/-!
# Quoted text

A message that shows a text which does not fit puts it between double quotes. The quote, the
backslash and the common control characters have a short escape; any other character that is not
printable is written by its number in hexadecimal digits.
-/

namespace OutlineLint.Text

/-- The hexadecimal digits of a number, in lower case and without leading zeros. -/
def hexDigits (n : Nat) : String :=
  String.ofList (Nat.toDigits 16 n)

/-- How one character is written between the quotes. -/
def quotedChar (c : Char) : String :=
  if c = '\x00' then "\\0"
  else if c = '\t' then "\\t"
  else if c = '\r' then "\\r"
  else if c = '\n' then "\\n"
  else if c = '\\' then "\\\\"
  else if c = '\x22' then "\\\""
  else if isPrintable c then String.singleton c
  else "\\u\x7b" ++ hexDigits c.toNat ++ "\x7d"

/-- A text between double quotes, with what is not printable escaped. -/
def quoted (s : String) : String :=
  "\"" ++ String.join (s.toList.map quotedChar) ++ "\""

end OutlineLint.Text
