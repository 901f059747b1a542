import OutlineLint.Toml.Basic

/-!
# Blanks, strings and keys of TOML

Readers take the characters that are left and give what they read with the characters after it, or
nothing if the text is not well formed.
-/

namespace OutlineLint.Toml

/-- What was read, and the characters after it. -/
abbrev Read (α : Type) := Option (α × List Char)

/-! ### Blanks, comments and line ends -/

/-- A space or a tab. -/
def isSpace (c : Char) : Bool := c == ' ' || c == '\t'

/-- A character that comments, and strings on one line, may hold. -/
def isInline (c : Char) : Bool := c == '\t' || (0x20 ≤ c.toNat && c.toNat != 0x7F)

def skipSpace (cs : List Char) : List Char := cs.dropWhile isSpace

/-- The characters after a line end. -/
def newline? : List Char → Option (List Char)
  | '\n' :: rest => some rest
  | '\r' :: '\n' :: rest => some rest
  | _ => none

/-- The characters after a comment, if there is one. -/
def skipComment : List Char → List Char
  | '#' :: rest => rest.dropWhile isInline
  | cs => cs

/-- The characters after the end of a line, before which a comment may stand. -/
def lineEnd? (cs : List Char) : Option (List Char) :=
  match skipComment (skipSpace cs) with
  | [] => some []
  | rest => newline? rest

/-- Skips spaces, line ends and comments. The argument tells whether a comment is open. -/
def skipFiller (inComment : Bool) : List Char → List Char
  | '\r' :: '\n' :: rest => skipFiller false rest
  | '\n' :: rest => skipFiller false rest
  | '#' :: rest => skipFiller true rest
  | c :: rest =>
    if isSpace c || (inComment && isInline c) then skipFiller inComment rest else c :: rest
  | [] => []

/-- Skips spaces and line ends. -/
def skipLines : List Char → List Char
  | '\r' :: '\n' :: rest => skipLines rest
  | c :: rest => if isSpace c || c == '\n' then skipLines rest else c :: rest
  | [] => []

/-! ### Escapes -/

def hexValue? (c : Char) : Option Nat :=
  if c.isDigit then some (c.toNat - 48)
  else if 'a' ≤ c ∧ c ≤ 'f' then some (c.toNat - 87)
  else if 'A' ≤ c ∧ c ≤ 'F' then some (c.toNat - 55)
  else none

/-- The number that hexadecimal digits spell. -/
def hexNumber? (cs : List Char) : Option Nat :=
  cs.foldlM (fun n c => (hexValue? c).map (n * 16 + ·)) 0

/-- The character with a number, which must not be that of a surrogate. -/
def charOfNat? (n : Nat) : Option Char :=
  if n < 0xD800 || (0xE000 ≤ n && n < 0x110000) then some (Char.ofNat n) else none

/-- Reads the number of a character that is spelled by `count` hexadecimal digits. -/
def readCode (count : Nat) (cs : List Char) : Read Char :=
  if cs.length < count then none
  else ((hexNumber? (cs.take count)).bind charOfNat?).map (·, cs.drop count)

/-- Reads an escape after its backslash. -/
def readEscape : List Char → Read Char
  | 'b' :: rest => some ('\x08', rest)
  | 't' :: rest => some ('\t', rest)
  | 'n' :: rest => some ('\n', rest)
  | 'f' :: rest => some ('\x0c', rest)
  | 'r' :: rest => some ('\r', rest)
  | '\x22' :: rest => some ('\x22', rest)
  | '\\' :: rest => some ('\\', rest)
  | 'u' :: rest => readCode 4 rest
  | 'U' :: rest => readCode 8 rest
  | _ => none

/-! ### Strings -/

/-- Reads a string on one line, after its first quote. The list holds what was read, latest first. -/
def readBasic : Nat → List Char → List Char → Read String
  | 0, _, _ => none
  | fuel + 1, done, cs =>
    match cs with
    | [] => none
    | '\x22' :: rest => some (String.ofList done.reverse, rest)
    | '\\' :: rest =>
      match readEscape rest with
      | some (c, rest) => readBasic fuel (c :: done) rest
      | none => none
    | c :: rest => if isInline c then readBasic fuel (c :: done) rest else none

/-- Reads a literal string on one line, after its first quote. -/
def readLiteral (cs : List Char) : Read String :=
  match cs.span fun c => isInline c && c != '\x27' with
  | (content, '\x27' :: rest) => some (String.ofList content, rest)
  | _ => none

/-- The closing quotes of a string over several lines: up to two more quotes right before them
belong to the string. -/
def closeQuotes (quote : Char) (done : List Char) (rest : List Char) : Read String :=
  let extra := min 2 (rest.takeWhile (· == quote)).length
  some (String.ofList (done.reverse ++ List.replicate extra quote), rest.drop extra)

/-- Reads a string over several lines, after its first quotes and the line end that may follow. -/
def readMultiBasic : Nat → List Char → List Char → Read String
  | 0, _, _ => none
  | fuel + 1, done, cs =>
    match cs with
    | [] => none
    | '\x22' :: '\x22' :: '\x22' :: rest => closeQuotes '\x22' done rest
    | '\\' :: rest =>
      match readEscape rest with
      | some (c, rest) => readMultiBasic fuel (c :: done) rest
      | none =>
        match newline? (skipSpace rest) with
        | some rest => readMultiBasic fuel done (skipLines rest)
        | none => none
    | cs =>
      match newline? cs, cs with
      | some rest, _ => readMultiBasic fuel ('\n' :: done) rest
      | none, c :: rest => if isInline c then readMultiBasic fuel (c :: done) rest else none
      | none, [] => none

/-- Reads a literal string over several lines, after its first quotes and the line end that may
follow. -/
def readMultiLiteral : Nat → List Char → List Char → Read String
  | 0, _, _ => none
  | fuel + 1, done, cs =>
    match cs with
    | [] => none
    | '\x27' :: '\x27' :: '\x27' :: rest => closeQuotes '\x27' done rest
    | cs =>
      match newline? cs, cs with
      | some rest, _ => readMultiLiteral fuel ('\n' :: done) rest
      | none, c :: rest => if isInline c then readMultiLiteral fuel (c :: done) rest else none
      | none, [] => none

/-- Reads a string of any form. -/
def readString (cs : List Char) : Read String :=
  let fuel := cs.length + 1
  match cs with
  | '\x22' :: '\x22' :: '\x22' :: rest => readMultiBasic fuel [] ((newline? rest).getD rest)
  | '\x22' :: rest => readBasic fuel [] rest
  | '\x27' :: '\x27' :: '\x27' :: rest => readMultiLiteral fuel [] ((newline? rest).getD rest)
  | '\x27' :: rest => readLiteral rest
  | _ => none

/-! ### Keys -/

/-- A character of a key without quotes. -/
def isBareKeyChar (c : Char) : Bool :=
  ('a' ≤ c && c ≤ 'z') || ('A' ≤ c && c ≤ 'Z') || c.isDigit || c == '_' || c == '-'

/-- Reads one part of a key. -/
def readKeyPart (cs : List Char) : Read String :=
  match cs with
  | '\x22' :: rest => readBasic (rest.length + 1) [] rest
  | '\x27' :: rest => readLiteral rest
  | cs =>
    match cs.span isBareKeyChar with
    | ([], _) => none
    | (part, rest) => some (String.ofList part, rest)

/-- Reads the parts of a key, with points between them and spaces around them. -/
def readKeyParts : Nat → List Char → Read (List String)
  | 0, _ => none
  | fuel + 1, cs =>
    match readKeyPart (skipSpace cs) with
    | none => none
    | some (part, rest) =>
      match skipSpace rest with
      | '.' :: rest =>
        match readKeyParts fuel rest with
        | some (parts, rest) => some (part :: parts, rest)
        | none => none
      | rest => some ([part], rest)

/-- Reads a key. -/
def readKey (cs : List Char) : Read (List String) := readKeyParts (nestingBound - 1) cs

end OutlineLint.Toml
