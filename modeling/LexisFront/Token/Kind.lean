/-!
# Kinds of tokens

Twelve kinds of token come out of the lexer. The others are reserved: a token list from elsewhere
may hold them, they have a name, and no rule of the grammar accepts them.
-/

namespace LexisFront

/-- The kind of a token. -/
inductive Kind where
  | letWord
  | number
  | plus
  | minus
  | multiply
  | divide
  | leftParen
  | rightParen
  | assign
  | identifier
  | null
  | eof
  | string
  | character
  | leftBrace
  | rightBrace
  | leftBracket
  | rightBracket
  | comma
  | semicolon
  | colon
  | dot
  | equal
  | notEqual
  | lessThan
  | lessThanEqual
  | greaterThan
  | greaterThanEqual
  | plusAssign
  | minusAssign
  | multiplyAssign
  | divideAssign
  | moduloAssign
  | logicalAnd
  | logicalOr
  | logicalNot
  | modulo
  | increment
  | decrement
  | comment
deriving DecidableEq, Repr, Inhabited

/-- A coarse grouping of kinds. -/
inductive KindClass where
  | keyword
  | operator
  | literal
  | identifier
  | grouping
  | special
  | reserved
deriving DecidableEq, Repr

namespace KindClass

/-- The name of a class. -/
def name : KindClass → String
  | keyword => "Keyword"
  | operator => "Operator"
  | literal => "Literal"
  | identifier => "Identifier"
  | grouping => "Grouping"
  | special => "Special"
  | reserved => "Reserved"

end KindClass

namespace Kind

/-- Every kind. -/
def all : List Kind := [
  letWord, number, plus, minus, multiply, divide, leftParen, rightParen, assign, identifier,
  null, eof, string, character, leftBrace, rightBrace, leftBracket, rightBracket, comma,
  semicolon, colon, dot, equal, notEqual, lessThan, lessThanEqual, greaterThan,
  greaterThanEqual, plusAssign, minusAssign, multiplyAssign, divideAssign, moduloAssign,
  logicalAnd, logicalOr, logicalNot, modulo, increment, decrement, comment]

/-- The name of a kind in capitals. -/
def name : Kind → String
  | letWord => "LET"
  | number => "NUMBER"
  | plus => "PLUS"
  | minus => "MINUS"
  | multiply => "MULTIPLY"
  | divide => "DIVIDE"
  | leftParen => "LEFT_PAREN"
  | rightParen => "RIGHT_PAREN"
  | assign => "ASSIGN"
  | identifier => "IDENTIFIER"
  | null => "NULL"
  | eof => "EOF"
  | string => "STRING"
  | character => "CHARACTER"
  | leftBrace => "LEFT_BRACE"
  | rightBrace => "RIGHT_BRACE"
  | leftBracket => "LEFT_BRACKET"
  | rightBracket => "RIGHT_BRACKET"
  | comma => "COMMA"
  | semicolon => "SEMICOLON"
  | colon => "COLON"
  | dot => "DOT"
  | equal => "EQUAL"
  | notEqual => "NOT_EQUAL"
  | lessThan => "LESS_THAN"
  | lessThanEqual => "LESS_THAN_EQUAL"
  | greaterThan => "GREATER_THAN"
  | greaterThanEqual => "GREATER_THAN_EQUAL"
  | plusAssign => "PLUS_ASSIGN"
  | minusAssign => "MINUS_ASSIGN"
  | multiplyAssign => "MULTIPLY_ASSIGN"
  | divideAssign => "DIVIDE_ASSIGN"
  | moduloAssign => "MODULO_ASSIGN"
  | logicalAnd => "LOGICAL_AND"
  | logicalOr => "LOGICAL_OR"
  | logicalNot => "LOGICAL_NOT"
  | modulo => "MODULO"
  | increment => "INCREMENT"
  | decrement => "DECREMENT"
  | comment => "COMMENT"

/-- The kind with a name. -/
def ofName? (name : String) : Option Kind :=
  all.find? (·.name == name)

/-- Whether a kind is an arithmetic operator, which joins two operands. -/
def isArithmetic : Kind → Bool
  | plus | minus | multiply | divide => true
  | _ => false

/-- Whether a kind can stand as an operand. -/
def isOperand : Kind → Bool
  | number | identifier | null => true
  | _ => false

/-- The class of a kind. -/
def kindClass : Kind → KindClass
  | letWord => .keyword
  | plus | minus | multiply | divide | assign => .operator
  | number | null => .literal
  | identifier => .identifier
  | leftParen | rightParen => .grouping
  | eof => .special
  | _ => .reserved

/-- The kind of the glyph that opens an operator fragment. -/
def ofGlyph? : Char → Option Kind
  | '(' => some leftParen
  | ')' => some rightParen
  | '=' => some assign
  | '+' => some plus
  | '-' => some minus
  | '*' => some multiply
  | '/' => some divide
  | _ => none

end Kind

/-- A reserved word of the language; matching is exact. -/
inductive Keyword where
  | letWord
  | null
deriving DecidableEq, Repr

namespace Keyword

/-- Every reserved word. -/
def all : List Keyword := [letWord, null]

/-- The spelling of a reserved word. -/
def spelling : Keyword → String
  | letWord => "let"
  | null => "null"

/-- The reserved word with a spelling. -/
def ofSpelling? (word : String) : Option Keyword :=
  all.find? (·.spelling == word)

/-- The kind of token that a reserved word becomes. -/
def kind : Keyword → Kind
  | letWord => .letWord
  | null => .null

end Keyword

end LexisFront
