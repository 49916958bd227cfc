import LexisFront.Text.Hidden

/-!
# Quoted text

Quoted text stands between double quotes. A backslash marks the quote, the backslash, the four
control characters with a letter of their own, and, with its number in braces, every character
that has no visible form by itself.
-/

namespace LexisFront.Text

/-- The letter that stands after a backslash for a character, when there is one. -/
def escapeLetter? (c : Char) : Option Char :=
  if c = '\x00' then some '0'
  else if c = '\t' then some 't'
  else if c = '\r' then some 'r'
  else if c = '\n' then some 'n'
  else if c = '\"' then some '\"'
  else if c = '\\' then some '\\'
  else none

/-- One character as it stands inside quoted text. -/
def quoteChar (c : Char) : List Char :=
  match escapeLetter? c with
  | some letter => ['\\', letter]
  | none =>
    if isHidden c then
      "\\u\x7b".toList ++ Nat.toDigits 16 c.toNat ++ ['\x7d']
    else
      [c]

/-- A text between double quotes, with marked characters where the text has unprintable ones. -/
def quoted (text : String) : String :=
  String.ofList ('\"' :: text.toList.flatMap quoteChar ++ ['\"'])

/-- A quoted text, or the word that says there is none. -/
def quotedOption : Option String → String
  | none => "None"
  | some text => "Some(" ++ quoted text ++ ")"

end LexisFront.Text
