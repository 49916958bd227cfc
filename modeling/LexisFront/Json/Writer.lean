import LexisFront.Json.Basic

/-!
# Writing structured values

A value is written on one line without spaces, or spread over lines with two spaces per level.
Both writers append to the text written so far, so that a deep value costs no more than its
text. Inside a string only the quote, the backslash and the control characters are marked.
-/

namespace LexisFront.Json

/-- The digit of a number below sixteen. -/
def hexDigit (n : Nat) : Char :=
  (Nat.toDigits 16 n).getLastD '0'

/-- One character as it stands inside a written string. -/
def escapeChar (c : Char) : String :=
  if c = '\"' then "\\\""
  else if c = '\\' then "\\\\"
  else if c = '\x08' then "\\b"
  else if c = '\t' then "\\t"
  else if c = '\n' then "\\n"
  else if c = '\x0c' then "\\f"
  else if c = '\r' then "\\r"
  else if c.toNat < 0x20 then
    String.ofList ['\\', 'u', '0', '0', hexDigit (c.toNat / 16), hexDigit (c.toNat % 16)]
  else c.toString

/-- Appends a string between quotes. -/
def writeString (out text : String) : String :=
  (text.foldl (fun written c => written ++ escapeChar c) (out.push '\"')).push '\"'

mutual

/-- Appends a value on one line. -/
def writeCompact (out : String) : Json → String
  | .null => out ++ "null"
  | .bool value => out ++ toString value
  | .number value => out ++ toString value
  | .string value => writeString out value
  | .array [] => out ++ "[]"
  | .array (first :: rest) => (writeCompactItems (writeCompact (out.push '[') first) rest).push ']'
  | .object [] => out ++ "\x7b\x7d"
  | .object ((name, value) :: rest) =>
    (writeCompactFields
      (writeCompact ((writeString (out.push '\x7b') name).push ':') value) rest).push '\x7d'

/-- Appends the items of an array after its first one. -/
def writeCompactItems (out : String) : List Json → String
  | [] => out
  | item :: rest => writeCompactItems (writeCompact (out.push ',') item) rest

/-- Appends the fields of an object after its first one. -/
def writeCompactFields (out : String) : List (String × Json) → String
  | [] => out
  | (name, value) :: rest =>
    writeCompactFields (writeCompact ((writeString (out.push ',') name).push ':') value) rest

end

/-- A value on one line. -/
def compact (value : Json) : String :=
  writeCompact "" value

/-- Appends a line break and the spaces of a level. -/
def breakLine (out : String) (level : Nat) : String :=
  (out.push '\n').pushn ' ' (2 * level)

mutual

/-- Appends a value whose lines after the first stand at a level. -/
def writePretty (level : Nat) (out : String) : Json → String
  | .null => out ++ "null"
  | .bool value => out ++ toString value
  | .number value => out ++ toString value
  | .string value => writeString out value
  | .array [] => out ++ "[]"
  | .array (first :: rest) =>
    let opened := writePretty (level + 1) (breakLine (out.push '[') (level + 1)) first
    (breakLine (writePrettyItems (level + 1) opened rest) level).push ']'
  | .object [] => out ++ "\x7b\x7d"
  | .object ((name, value) :: rest) =>
    let named := writeString (breakLine (out.push '\x7b') (level + 1)) name ++ ": "
    let opened := writePretty (level + 1) named value
    (breakLine (writePrettyFields (level + 1) opened rest) level).push '\x7d'

/-- Appends the items of an array after its first one, each on a line of its own. -/
def writePrettyItems (level : Nat) (out : String) : List Json → String
  | [] => out
  | item :: rest =>
    writePrettyItems level (writePretty level (breakLine (out.push ',') level) item) rest

/-- Appends the fields of an object after its first one, each on a line of its own. -/
def writePrettyFields (level : Nat) (out : String) : List (String × Json) → String
  | [] => out
  | (name, value) :: rest =>
    let named := writeString (breakLine (out.push ',') level) name ++ ": "
    writePrettyFields level (writePretty level named value) rest

end

/-- A value spread over lines. -/
def pretty (value : Json) : String :=
  writePretty 0 "" value

end LexisFront.Json
