import LexisFront.Diagnostic.Code
import LexisFront.Limits
import LexisFront.Source.Span

/-!
# Errors of lexing

The first fragment that is no token ends a run. An error says which fragment that was and where
it stands; only the error of too many tokens is about the source as a whole.
-/

namespace LexisFront

/-- Why a source has no token sequence. -/
inductive LexicalError where
  /-- A fragment is no operator, number or word. -/
  | unrecognizedToken (fragment : String) (index : Nat) (span : Span)
  /-- An operator has characters after its glyph. -/
  | malformedOperator (fragment : String) (index : Nat) (span : Span)
  /-- A fragment has more characters than allowed. -/
  | fragmentTooLong (length index : Nat) (span : Span)
  /-- There are more tokens than allowed. -/
  | tooManyTokens (count : Nat)
deriving DecidableEq, Repr

namespace LexicalError

/-- The code of an error. -/
def code : LexicalError → Code
  | unrecognizedToken .. => .unrecognizedToken
  | malformedOperator .. => .malformedOperator
  | fragmentTooLong .. => .fragmentTooLong
  | tooManyTokens .. => .tooManyTokens

/-- The place of the fragment that an error is about. -/
def span? : LexicalError → Option Span
  | unrecognizedToken _ _ span | malformedOperator _ _ span | fragmentTooLong _ _ span => some span
  | tooManyTokens _ => none

/-- The number of the fragment that an error is about, counted from zero. -/
def fragmentIndex? : LexicalError → Option Nat
  | unrecognizedToken _ index _ | malformedOperator _ index _ | fragmentTooLong _ index _ =>
    some index
  | tooManyTokens _ => none

/-- An error in words. -/
def message : LexicalError → String
  | unrecognizedToken fragment index span =>
    s!"Unknown token: [{fragment}] (fragment {index} at {span.render})"
  | malformedOperator fragment index span =>
    s!"Malformed operator: [{fragment}] (fragment {index} at {span.render})"
  | fragmentTooLong length _ _ =>
    s!"Fragment too long: {length} characters (max {Limits.maxFragmentLength})"
  | tooManyTokens count =>
    s!"Too many tokens: {count} (max {Limits.maxTokenCount})"

end LexicalError

end LexisFront
