import OutlineLint.Json.Basic

/-!
# Writing JSON

Values are written over several lines, each level of nesting indented by two more spaces; empty
arrays and objects stay on their line. In strings only the quote, the backslash and the control
characters below U+0020 are escaped.
-/

namespace OutlineLint.Json

/-! ### Strings -/

/-- A hexadecimal digit in lower case. -/
def hexDigit (n : Nat) : Char := Nat.digitChar (n % 16)

/-- How one character is written in a string. -/
def escapeChar (c : Char) : List Char :=
  if c = '\x22' then ['\\', '\x22']
  else if c = '\\' then ['\\', '\\']
  else if c = '\x08' then ['\\', 'b']
  else if c = '\x0c' then ['\\', 'f']
  else if c = '\n' then ['\\', 'n']
  else if c = '\r' then ['\\', 'r']
  else if c = '\t' then ['\\', 't']
  else if c.toNat < 0x20 then
    ['\\', 'u', '0', '0', hexDigit (c.toNat / 16), hexDigit c.toNat]
  else [c]

/-- A string between quotes. -/
def writeString (s : String) : List Char :=
  '\x22' :: s.toList.flatMap escapeChar ++ ['\x22']

/-! ### Numbers -/

/-- A decimal number as it was read: its digits and a power of ten. -/
def writeDecimal (d : Decimal) : List Char :=
  (if d.negative then ['-'] else []) ++ (Nat.repr d.digits).toList ++ 'e' :: (toString d.exponent).toList

/-! ### Values -/

/-- A new line, indented to the given level. -/
def newLine (level : Nat) : List Char := '\n' :: List.replicate (2 * level) ' '

mutual

/-- Writes a value that stands at the given level of nesting. -/
def write (level : Nat) : Json → List Char
  | null => "null".toList
  | bool true => "true".toList
  | bool false => "false".toList
  | integer n => (toString n).toList
  | decimal d => writeDecimal d
  | string s => writeString s
  | array [] => "[]".toList
  | array (item :: items) =>
    '[' :: newLine (level + 1) ++ write (level + 1) item ++ writeItems (level + 1) items ++
      newLine level ++ [']']
  | object [] => "\x7b\x7d".toList
  | object ((name, value) :: fields) =>
    '\x7b' :: newLine (level + 1) ++ writeString name ++ [':', ' '] ++ write (level + 1) value ++
      writeFields (level + 1) fields ++ newLine level ++ ['\x7d']

/-- Writes the items after the first, each after a comma. -/
def writeItems (level : Nat) : List Json → List Char
  | [] => []
  | item :: items => ',' :: newLine level ++ write level item ++ writeItems level items

/-- Writes the fields after the first, each after a comma. -/
def writeFields (level : Nat) : List (String × Json) → List Char
  | [] => []
  | (name, value) :: fields =>
    ',' :: newLine level ++ writeString name ++ [':', ' '] ++ write level value ++
      writeFields level fields

end

/-- The text of a value. -/
def pretty (value : Json) : String := String.ofList (write 0 value)

end OutlineLint.Json
