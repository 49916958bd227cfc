import LexisFront.Diagnostic.Code
import LexisFront.Source.Span

/-!
# Errors of parsing

An error of parsing names what was expected and the token or the end that stood there instead.
Three errors are about the tokens as a whole and have no place.
-/

namespace LexisFront

/-- Why tokens are no program. -/
inductive ParseError where
  /-- A token cannot stand where it stands. -/
  | unexpectedToken (expected found : String) (span : Span)
  /-- The tokens end where something was expected. -/
  | unexpectedEnd (expected : String) (span : Span)
  /-- A parenthesis stands where an operand was expected. -/
  | unsupportedToken (token : String) (span : Span)
  /-- There are no tokens. -/
  | emptyTokenStream
  /-- The last token is not the only terminator. -/
  | missingEof
  /-- A chain has more operands than allowed. -/
  | chainTooLong (length max : Nat) (span : Span)
  /-- There are more statements than allowed. -/
  | tooManyStatements (count max : Nat)
deriving DecidableEq, Repr

namespace ParseError

/-- The code of an error. -/
def code : ParseError → Code
  | unexpectedToken .. => .unexpectedToken
  | unexpectedEnd .. => .unexpectedEnd
  | unsupportedToken .. => .unsupportedToken
  | emptyTokenStream => .emptyTokenStream
  | missingEof => .missingEof
  | chainTooLong .. => .chainTooLong
  | tooManyStatements .. => .tooManyStatements

/-- The place that an error is about. -/
def span? : ParseError → Option Span
  | unexpectedToken _ _ span | unexpectedEnd _ span | unsupportedToken _ span
  | chainTooLong _ _ span => some span
  | emptyTokenStream | missingEof | tooManyStatements .. => none

/-- An error in words. -/
def message : ParseError → String
  | unexpectedToken expected found span =>
    s!"Unexpected token: expected {expected}, found '{found}' at {span.render}"
  | unexpectedEnd expected span =>
    s!"Unexpected end of input: expected {expected} at {span.render}"
  | unsupportedToken token span =>
    s!"Unsupported token '{token}' at {span.render}: grouping is not part of expression chains"
  | emptyTokenStream => "Empty token stream - no tokens to parse"
  | missingEof => "Token stream must end with exactly one EOF token"
  | chainTooLong length max span =>
    s!"Expression chain too long: {length} operands (max {max}) at {span.render}"
  | tooManyStatements count max => s!"Too many statements: {count} (max {max})"

/-- An error in words, with what to do about it. -/
def advice (error : ParseError) : String :=
  let action := error.code.action
  match error with
  | unexpectedToken expected found _ => s!"Expected {expected} but found '{found}'. {action}"
  | unexpectedEnd expected _ =>
    s!"Unexpected end of input while expecting {expected}. {action}"
  | _ => s!"{error.message} ({action})"

end ParseError

end LexisFront
