import OutlineLint.Toml.Number
import OutlineLint.Toml.Table

/-!
# Reading TOML documents

A document is read line by line: headers start tables, and the other lines define keys. Every value,
item and line takes at least one character, so the length of the text bounds the recursion.
-/

namespace OutlineLint.Toml

/-! ### Values -/

mutual

/-- Reads a value. `depth` counts the arrays and tables around it. -/
def readValue : Nat → Nat → List Char → Read Toml
  | 0, _, _ => none
  | fuel + 1, depth, cs =>
    match cs with
    | '[' :: rest =>
      if depth + 1 < nestingBound then
        match readItems fuel (depth + 1) (skipFiller false rest) with
        | some (items, rest) => some (.array items, rest)
        | none => none
      else none
    | '\x7b' :: rest =>
      if depth + 1 < nestingBound then
        match skipSpace rest with
        | '\x7d' :: rest => some (.table [], rest)
        | rest =>
          match readFields fuel (depth + 1) [] rest with
          | some (fields, rest) => some (.table (freezeFields fields), rest)
          | none => none
      else none
    | 't' :: 'r' :: 'u' :: 'e' :: rest => some (.boolean true, rest)
    | 'f' :: 'a' :: 'l' :: 's' :: 'e' :: rest => some (.boolean false, rest)
    | '\x22' :: _ => (readString cs).map fun (s, rest) => (.string s, rest)
    | '\x27' :: _ => (readString cs).map fun (s, rest) => (.string s, rest)
    | cs => readNumeric cs

/-- Reads the items of an array up to its end. A comma may stand after the last item. -/
def readItems : Nat → Nat → List Char → Read (List Toml)
  | 0, _, _ => none
  | fuel + 1, depth, cs =>
    match cs with
    | ']' :: rest => some ([], rest)
    | cs =>
      match readValue fuel depth cs with
      | none => none
      | some (item, rest) =>
        match skipFiller false rest with
        | ']' :: rest => some ([item], rest)
        | ',' :: rest =>
          match readItems fuel depth (skipFiller false rest) with
          | some (items, rest) => some (item :: items, rest)
          | none => none
        | _ => none

/-- Reads the fields of a table on one line up to its end. -/
def readFields : Nat → Nat → NodeFields → List Char → Read NodeFields
  | 0, _, _, _ => none
  | fuel + 1, depth, fields, cs =>
    match readKey cs with
    | none => none
    | some (key, rest) =>
      match rest with
      | '=' :: rest =>
        match readValue fuel depth (skipSpace rest) with
        | none => none
        | some (value, rest) =>
          match define true key value fields with
          | none => none
          | some fields =>
            match skipSpace rest with
            | '\x7d' :: rest => some (fields, rest)
            | ',' :: rest => readFields fuel depth fields rest
            | _ => none
      | _ => none

end

/-! ### Lines -/

/-- Reads the key of a header and the characters that close it. -/
def readHeader (closing : List Char) (cs : List Char) : Read (List String × String) :=
  match readKey cs with
  | none => none
  | some (key, rest) =>
    match key.getLast? with
    | none => none
    | some name =>
      if closing.isPrefixOf rest then some ((key.dropLast, name), rest.drop closing.length)
      else none

/-- Reads a line that defines a key. -/
def readDefinition (cs : List Char) : Read (List String × Toml) :=
  match readKey cs with
  | none => none
  | some (key, rest) =>
    match rest with
    | '=' :: rest =>
      (readValue (2 * rest.length + 2) 0 (skipSpace rest)).map fun (value, rest) =>
        ((key, value), rest)
    | _ => none

/-- Reads one line that is not empty. -/
def readLine (draft : Draft) (cs : List Char) : Option (Draft × List Char) :=
  match cs with
  | '[' :: '[' :: rest => do
    let ((path, name), rest) ← readHeader [']', ']'] rest
    return (← draft.startElement path name, ← lineEnd? rest)
  | '[' :: rest => do
    let ((path, name), rest) ← readHeader [']'] rest
    return (← draft.startTable path name, ← lineEnd? rest)
  | cs => do
    let ((key, value), rest) ← readDefinition cs
    return (← draft.define key value, ← lineEnd? rest)

/-- Reads lines up to the end of the text. -/
def readLines : Nat → Draft → List Char → Option Draft
  | 0, _, _ => none
  | fuel + 1, draft, cs =>
    match skipComment (skipSpace cs) with
    | [] => some draft
    | rest =>
      match newline? rest with
      | some rest => readLines fuel draft rest
      | none =>
        match readLine draft rest with
        | some (draft, rest) => readLines fuel draft rest
        | none => none

/-- The text without the mark that may stand before it. -/
def skipMark : List Char → List Char
  | '\ufeff' :: rest => rest
  | cs => cs

/-- The fields of the document, if the text is well formed. -/
def parse? (text : String) : Option (List (String × Toml)) := do
  let cs := skipMark text.toList
  let draft ← readLines (cs.length + 1) .empty cs
  return freezeFields (← draft.close)

end OutlineLint.Toml
