import LexisFront.Limits
import LexisFront.Token.Kind

/-!
# Judging a fragment

A fragment is judged by itself, whatever stands around it. Its length comes first, then its
first character, then all its characters: digits make a number and letters a word. Only digits
and letters of ASCII count.
-/

namespace LexisFront

/-- What a fragment is. -/
inductive Verdict where
  /-- The fragment has too many characters. -/
  | tooLong
  /-- The fragment opens with the glyph of an operator, and `rest` follows. -/
  | operator (kind : Kind) (glyph : Char) (rest : List Char)
  /-- The whole fragment is one token. -/
  | whole (kind : Kind)
  /-- The fragment is none of these. -/
  | unknown
deriving DecidableEq, Repr

namespace Verdict

/-- The kind of a word. -/
def wordKind (word : List Char) : Kind :=
  (Keyword.ofSpelling? (String.ofList word)).elim .identifier Keyword.kind

/-- Judges a fragment that has no operator glyph in front. -/
def ofText (fragment : List Char) : Verdict :=
  if fragment.all Char.isDigit then .whole .number
  else if fragment.all Char.isAlpha then .whole (wordKind fragment)
  else .unknown

/-- Judges a fragment. -/
def ofFragment (fragment : List Char) : Verdict :=
  if Limits.maxFragmentLength < fragment.length then
    .tooLong
  else
    match fragment with
    | [] => ofText []
    | first :: rest =>
      match Kind.ofGlyph? first with
      | some kind => .operator kind first rest
      | none => ofText (first :: rest)

end Verdict

end LexisFront
