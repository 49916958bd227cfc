import LexisFront.Diagnostic.Event
import LexisFront.Limits
import LexisFront.Program.Basic
import LexisFront.Program.Error
import LexisFront.Token.Sequence

/-!
# Parsing

```text
program   := statement* EOF
statement := "let" IDENTIFIER "=" chain | chain
chain     := operand ( operator operand )*
operand   := NUMBER | IDENTIFIER | NULL
```

A statement ends where its chain meets no operator, so statements need no separator. The tokens
before the terminator are read from the left, and each reader returns the tokens that it leaves;
an end of that list is the place of the terminator. Parsing keeps the statements that were
complete before an error.

The numbers of operands in a chain and of statements in a program are limited. The limits are a
parameter, so that a parse can be compared with one that is not limited.
-/

namespace LexisFront

/-- The most operands in a chain and the most statements in a program. -/
structure ParseLimits where
  /-- The most operands in a chain. -/
  chainLength : Nat
  /-- The most statements in a program. -/
  statements : Nat
deriving DecidableEq, Repr

namespace ParseLimits

/-- The limits that are in force. -/
def standard : ParseLimits := ⟨Limits.maxChainLength, Limits.maxStatements⟩

end ParseLimits

namespace Parser

/-- The result of a reader: a value and the tokens after it, or an error. -/
abbrev Reading (α : Type) := Except ParseError (α × List Token)

/-- The operand that a token stands for, or why it stands for none. -/
def operandOf (token : Token) : Except ParseError Operand :=
  match Operand.ofToken? token with
  | some operand => .ok operand
  | none =>
    match token.kind with
    | .leftParen | .rightParen => .error (.unsupportedToken token.value token.span)
    | _ => .error (.unexpectedToken "operand" token.value token.span)

/-- Reads an operand; `stop` is the place of the terminator. -/
def readOperand (stop : Span) : List Token → Reading Operand
  | [] => .error (.unexpectedEnd "operand" stop)
  | token :: rest => (operandOf token).map fun operand => (operand, rest)

/-- Reads a token of a kind that has a name. -/
def readKind (stop : Span) (kind : Kind) (expected : String) : List Token → Reading Token
  | [] => .error (.unexpectedEnd expected stop)
  | token :: rest =>
    if token.kind = kind then .ok (token, rest)
    else .error (.unexpectedToken expected token.value token.span)

/-- Reads operators, each with the operand after it, for as long as operators follow. `size` is
the number of operands so far, and `links` holds what was read, in reverse. -/
def readLinks (limits : ParseLimits) (stop : Span) (size : Nat)
    (links : List (String × Operand)) : List Token → Reading (List (String × Operand))
  | [] => .ok (links.reverse, [])
  | [operator] =>
    if operator.kind.isArithmetic then .error (.unexpectedEnd "operand" stop)
    else .ok (links.reverse, [operator])
  | operator :: token :: rest =>
    if operator.kind.isArithmetic then
      match operandOf token with
      | .error error => .error error
      | .ok operand =>
        if limits.chainLength < size + 1 then
          .error (.chainTooLong (size + 1) limits.chainLength operator.span)
        else
          readLinks limits stop (size + 1) ((operator.value, operand) :: links) rest
    else
      .ok (links.reverse, operator :: token :: rest)

/-- Reads a chain. -/
def readChain (limits : ParseLimits) (stop : Span) (tokens : List Token) : Reading Chain :=
  match readOperand stop tokens with
  | .error error => .error error
  | .ok (first, rest) =>
    (readLinks limits stop 1 [] rest).map fun (links, after) => (Chain.ofParts first links, after)

/-- Reads a declaration after its keyword. -/
def readDeclaration (limits : ParseLimits) (stop : Span) (tokens : List Token) :
    Reading Statement :=
  match readKind stop .identifier "identifier" tokens with
  | .error error => .error error
  | .ok (name, rest) =>
    match readKind stop .assign "'='" rest with
    | .error error => .error error
    | .ok (_, rest) =>
      (readChain limits stop rest).map fun (chain, after) =>
        (.define name.value (.ofChain chain), after)

/-- Reads a statement. -/
def readStatement (limits : ParseLimits) (stop : Span) (tokens : List Token) :
    Reading Statement :=
  match tokens with
  | [] => .error (.unexpectedEnd "operand" stop)
  | token :: rest =>
    if token.kind = .letWord then
      readDeclaration limits stop rest
    else
      (readChain limits stop (token :: rest)).map fun (chain, after) => (.ofChain chain, after)

end Parser

/-- What came of parsing tokens. -/
structure Parsing where
  /-- The statements that are complete. -/
  statements : Array Statement
  /-- The error that ended the parse, if one did. -/
  failure : Option ParseError
deriving DecidableEq, Repr

namespace Parsing

/-- The program, or why there is none. -/
def result (parsing : Parsing) : Except ParseError Program :=
  match parsing.failure with
  | none => .ok ⟨parsing.statements.toList⟩
  | some error => .error error

end Parsing

namespace Parser

/-- Reads statements until the tokens end; `budget` more statements are allowed. -/
def readStatements (limits : ParseLimits) (stop : Span) (done : Array Statement) :
    (budget : Nat) → List Token → Parsing
  | _, [] => ⟨done, none⟩
  | 0, _ :: _ => ⟨done, some (.tooManyStatements (done.size + 1) limits.statements)⟩
  | budget + 1, tokens@(_ :: _) =>
    match readStatement limits stop tokens with
    | .error error => ⟨done, some error⟩
    | .ok (statement, rest) => readStatements limits stop (done.push statement) budget rest

/-- Splits tokens into those before the terminator and the place of the terminator, which must
be the last token. -/
def splitEof : List Token → Except ParseError (List Token × Span)
  | [] => .error .emptyTokenStream
  | tokens@(_ :: _) =>
    match tokens.span (fun token => !token.isEof) with
    | (body, [eof]) => .ok (body, eof.span)
    | _ => .error .missingEof

end Parser

namespace Parsing

/-- Parses tokens within limits. -/
def ofTokensWithin (limits : ParseLimits) (tokens : List Token) : Parsing :=
  match Parser.splitEof tokens with
  | .error error => ⟨#[], some error⟩
  | .ok (body, stop) => Parser.readStatements limits stop #[] limits.statements body

/-- Parses tokens. -/
def ofTokens (tokens : List Token) : Parsing :=
  ofTokensWithin .standard tokens

/-- The events of the declarations among complete statements. -/
def declarationEvents (statements : List Statement) : List Event :=
  statements.filterMap fun
    | .define name _ =>
      some ((Event.debug "Parsed variable declaration").withDetail "identifier" name)
    | _ => none

/-- The event of a program with too many statements. -/
def limitEvents : Option ParseError → List Event
  | some error@(.tooManyStatements _ max) =>
    [(Event.error error.code "Statement limit exceeded").withDetail "limit" (toString max)]
  | _ => []

/-- The events of reading a number of tokens. -/
def readingEvents (parsing : Parsing) (count : Nat) : List Event :=
  (Event.debug "Creating parser").withDetail "tokens" (toString count) ::
    declarationEvents parsing.statements.toList ++ limitEvents parsing.failure

/-- The event that tells the outcome of a parse. -/
def outcomeEvent (parsing : Parsing) : Event :=
  match parsing.failure with
  | none =>
    (Event.success .parsingComplete "Syntax analysis completed successfully").withDetail
      "statements" (toString parsing.statements.size)
  | some error =>
    let event := (Event.error error.code "Syntax analysis failed").withDetail
      "error" error.message
    error.span?.elim event event.withSpan

/-- All events of parsing a number of tokens. -/
def events (parsing : Parsing) (count : Nat) : List Event :=
  (Event.debug "Starting syntax analysis").withDetail "tokens" (toString count) ::
    parsing.readingEvents count ++ [parsing.outcomeEvent]

end Parsing

end LexisFront
