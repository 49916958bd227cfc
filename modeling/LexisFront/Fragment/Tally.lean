import LexisFront.Json.Basic
import LexisFront.Limits
import LexisFront.Token.Kind

/-!
# Tally of a lexing run

The counters that a run keeps. They grow fragment by fragment, so they tell of a failed run how
far it came; the total is only set when the run is complete.
-/

namespace LexisFront

/-- The number of tokens of each kind, in the order of the names of the kinds; a kind without
tokens is absent. -/
abbrev KindCounts := List (Kind × Nat)

namespace KindCounts

/-- Counts one more token of a kind. -/
def add (counts : KindCounts) (kind : Kind) : KindCounts :=
  match counts with
  | [] => [(kind, 1)]
  | (other, count) :: rest =>
    if other = kind then (other, count + 1) :: rest
    else if kind.name < other.name then (kind, 1) :: (other, count) :: rest
    else (other, count) :: add rest kind

end KindCounts

/-- The counters of one lexing run. -/
structure Tally where
  /-- Fragments met, blank ones included. -/
  fragmentsSeen : Nat := 0
  /-- Blank fragments met. -/
  fragmentsSkipped : Nat := 0
  /-- Tokens of the finished sequence, the terminator included. -/
  totalTokens : Nat := 0
  /-- Tokens of the keyword that declares. -/
  keywordTokens : Nat := 0
  /-- Identifier tokens. -/
  identifierTokens : Nat := 0
  /-- Number tokens. -/
  numberTokens : Nat := 0
  /-- Null tokens. -/
  nullTokens : Nat := 0
  /-- Operator tokens, the equals sign included. -/
  operatorTokens : Nat := 0
  /-- Parenthesis tokens. -/
  groupingTokens : Nat := 0
  /-- Operators that lost the characters after their glyph. -/
  truncatedOperators : Nat := 0
  /-- Characters of the longest fragment within the limit. -/
  maxFragmentLength : Nat := 0
  /-- Tokens of each kind, when they are counted. -/
  kindCounts : KindCounts := []
deriving DecidableEq, Repr, Inhabited

namespace Tally

/-- Meets a fragment. -/
def seeFragment (tally : Tally) : Tally :=
  { tally with fragmentsSeen := tally.fragmentsSeen + 1 }

/-- Skips a blank fragment. -/
def skipFragment (tally : Tally) : Tally :=
  { tally with fragmentsSkipped := tally.fragmentsSkipped + 1 }

/-- Takes the length of a fragment into account, unless the fragment is too long. -/
def noteLength (tally : Tally) (length : Nat) : Tally :=
  if length ≤ Limits.maxFragmentLength then
    { tally with maxFragmentLength := max tally.maxFragmentLength length }
  else
    tally

/-- Takes the characters that an operator lost into account. -/
def noteDropped (tally : Tally) (dropped : List Char) : Tally :=
  if dropped.isEmpty then
    tally
  else
    { tally with truncatedOperators := tally.truncatedOperators + 1 }

/-- Counts a token by what it is. -/
def countKind (tally : Tally) : Kind → Tally
  | .letWord => { tally with keywordTokens := tally.keywordTokens + 1 }
  | .null => { tally with nullTokens := tally.nullTokens + 1 }
  | .identifier => { tally with identifierTokens := tally.identifierTokens + 1 }
  | .number => { tally with numberTokens := tally.numberTokens + 1 }
  | .leftParen | .rightParen => { tally with groupingTokens := tally.groupingTokens + 1 }
  | .plus | .minus | .multiply | .divide | .assign =>
    { tally with operatorTokens := tally.operatorTokens + 1 }
  | _ => tally

/-- Counts a token, and its kind by name when that is asked for. -/
def countToken (tally : Tally) (detailed : Bool) (kind : Kind) : Tally :=
  let counted := tally.countKind kind
  if detailed then { counted with kindCounts := counted.kindCounts.add kind } else counted

/-- The counters as a structured value. -/
def toJson (tally : Tally) : Json :=
  .object [
    ("fragments_seen", .number tally.fragmentsSeen),
    ("fragments_skipped", .number tally.fragmentsSkipped),
    ("total_tokens", .number tally.totalTokens),
    ("keyword_tokens", .number tally.keywordTokens),
    ("identifier_tokens", .number tally.identifierTokens),
    ("number_tokens", .number tally.numberTokens),
    ("null_tokens", .number tally.nullTokens),
    ("operator_tokens", .number tally.operatorTokens),
    ("grouping_tokens", .number tally.groupingTokens),
    ("truncated_operator_fragments", .number tally.truncatedOperators),
    ("max_fragment_length", .number tally.maxFragmentLength),
    ("kind_counts", .object (tally.kindCounts.map fun (kind, count) => (kind.name, .number count)))]

end Tally

end LexisFront
