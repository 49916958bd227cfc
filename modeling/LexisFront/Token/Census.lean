import LexisFront.Limits
import LexisFront.Token.Basic

/-!
# Token census

A census counts the tokens of a sequence by what they are. Numbers and nulls have counters of
their own, and a terminator or a reserved kind only adds to the total.
-/

namespace LexisFront

/-- How many tokens of each sort a list holds. -/
structure Census where
  /-- Every token, a terminator included. -/
  total : Nat := 0
  /-- Keywords. -/
  keywords : Nat := 0
  /-- Identifiers. -/
  identifiers : Nat := 0
  /-- Numbers. -/
  numbers : Nat := 0
  /-- Nulls. -/
  nulls : Nat := 0
  /-- Operators, the equals sign included. -/
  operators : Nat := 0
  /-- Parentheses. -/
  grouping : Nat := 0
deriving DecidableEq, Repr

namespace Census

/-- Counts one more token of a kind. -/
def add (census : Census) (kind : Kind) : Census :=
  let counted := { census with total := census.total + 1 }
  match kind with
  | .number => { counted with numbers := census.numbers + 1 }
  | .null => { counted with nulls := census.nulls + 1 }
  | _ =>
    match kind.kindClass with
    | .keyword => { counted with keywords := census.keywords + 1 }
    | .identifier => { counted with identifiers := census.identifiers + 1 }
    | .operator => { counted with operators := census.operators + 1 }
    | .grouping => { counted with grouping := census.grouping + 1 }
    | _ => counted

/-- The census of a list of tokens. -/
def ofTokens (tokens : List Token) : Census :=
  tokens.foldl (fun census token => census.add token.kind) {}

/-- The tokens other than the terminator. -/
def significant (census : Census) : Nat :=
  census.total - 1

/-- Whether there is a token other than the terminator. -/
def hasContent (census : Census) : Bool :=
  0 < census.significant

/-- Whether the total is within the limit on tokens. -/
def isWithinLimits (census : Census) : Bool :=
  census.total ≤ Limits.maxTokenCount

end Census

end LexisFront
