import LexisFront.Token.Basic

/-!
# Programs

A program is a list of statements. A statement is an operand, a chain of operands joined by
operators, or the declaration of a name. Chains are read from left to right and know nothing of
precedence.
-/

namespace LexisFront

/-- What a node of a program is. -/
inductive NodeType where
  | program
  | variableDeclaration
  | regularExpression
  | binaryExpression
  | numericLiteral
  | identifier
  | nullLiteral
deriving DecidableEq, Repr, Inhabited

namespace NodeType

/-- Every node type. -/
def all : List NodeType := [
  program, variableDeclaration, regularExpression, binaryExpression, numericLiteral, identifier,
  nullLiteral]

/-- The name of a node type. -/
def name : NodeType → String
  | program => "Program"
  | variableDeclaration => "VariableDeclaration"
  | regularExpression => "RegularExpression"
  | binaryExpression => "BinaryExpression"
  | numericLiteral => "NumericLiteral"
  | identifier => "Identifier"
  | nullLiteral => "NullLiteral"

/-- The node type with a name. -/
def ofName? (name : String) : Option NodeType :=
  all.find? (·.name == name)

/-- The name of a node type is found. -/
@[simp]
theorem ofName?_name (nodeType : NodeType) : ofName? nodeType.name = some nodeType := by
  cases nodeType <;> rfl

/-- Whether an operand can have a node type. -/
def isOperand : NodeType → Bool
  | numericLiteral | identifier | nullLiteral => true
  | _ => false

end NodeType

/-- An operand: a literal or a name, with its text. -/
structure Operand where
  /-- What the operand is. -/
  nodeType : NodeType
  /-- The text of the operand. -/
  value : String
deriving DecidableEq, Repr, Inhabited

namespace Operand

/-- A numeric literal. -/
def number (value : String) : Operand := ⟨.numericLiteral, value⟩

/-- A name. -/
def identifier (value : String) : Operand := ⟨.identifier, value⟩

/-- The null literal. -/
def null : Operand := ⟨.nullLiteral, "null"⟩

/-- The operand that a token stands for. -/
def ofToken? (token : Token) : Option Operand :=
  match token.kind with
  | .number => some ⟨.numericLiteral, token.value⟩
  | .identifier => some ⟨.identifier, token.value⟩
  | .null => some ⟨.nullLiteral, token.value⟩
  | _ => none

/-- An operand as its type and text. -/
def render (operand : Operand) : String :=
  s!"{operand.nodeType.name}({operand.value})"

end Operand

/-- Operands joined by operators, read from left to right. -/
inductive Chain where
  /-- The last operand. -/
  | last (operand : Operand)
  /-- An operand, the operator after it and what follows. -/
  | link (operand : Operand) (operator : String) (next : Chain)
deriving DecidableEq, Repr, Inhabited

namespace Chain

/-- The chain of a first operand and of operators, each with the operand after it. -/
def ofParts (first : Operand) : List (String × Operand) → Chain
  | [] => .last first
  | (operator, operand) :: rest => .link first operator (ofParts operand rest)

/-- The first operand of a chain. -/
def first : Chain → Operand
  | last operand => operand
  | link operand _ _ => operand

/-- The operators of a chain, each with the operand after it. -/
def rest : Chain → List (String × Operand)
  | last _ => []
  | link _ operator next => (operator, next.first) :: next.rest

/-- A chain of parts begins with the first operand. -/
@[simp]
theorem first_ofParts (head : Operand) (parts : List (String × Operand)) :
    (ofParts head parts).first = head := by
  cases parts <;> rfl

/-- A chain of parts goes on with the other parts. -/
@[simp]
theorem rest_ofParts (head : Operand) (parts : List (String × Operand)) :
    (ofParts head parts).rest = parts := by
  induction parts generalizing head with
  | nil => rfl
  | cons part parts ih => simp [ofParts, rest, ih]

/-- Every chain is the chain of its parts. -/
@[simp]
theorem ofParts_first_rest (chain : Chain) : ofParts chain.first chain.rest = chain := by
  induction chain with
  | last operand => rfl
  | link operand operator next ih =>
    rw [rest, ofParts, ih]
    rfl

/-- The operator after the first operand. -/
def operator? : Chain → Option String
  | last _ => none
  | link _ operator _ => some operator

/-- What follows the first operator. -/
def next? : Chain → Option Chain
  | last _ => none
  | link _ _ next => some next

/-- The operands in order, each with the operator after it; only the last one has none. -/
def nodes : Chain → List (Operand × Option String)
  | last operand => [(operand, none)]
  | link operand operator next => (operand, some operator) :: next.nodes

/-- Whether a chain is one operand. -/
def isSingle : Chain → Bool
  | last _ => true
  | link _ _ _ => false

/-- The number of operands. -/
def size : Chain → Nat
  | last _ => 1
  | link _ _ next => next.size + 1

/-- The operators in order. -/
def operators (chain : Chain) : List String :=
  chain.nodes.filterMap (·.2)

/-- A chain on one line. -/
def render (chain : Chain) : String :=
  String.join (chain.nodes.map fun (operand, operator?) =>
    operand.render ++ operator?.elim "" fun operator => s!" {operator} ")

end Chain

/-- One statement of a program. -/
inductive Statement where
  /-- An operand alone. -/
  | operand (operand : Operand)
  /-- A chain of operands. -/
  | chain (chain : Chain)
  /-- The declaration of a name without a value. -/
  | declare (name : String)
  /-- The declaration of a name with a value. -/
  | define (name : String) (value : Statement)
deriving DecidableEq, Repr, Inhabited

namespace Statement

/-- The statement of a chain; one operand is no chain. -/
def ofChain (chain : Chain) : Statement :=
  match chain with
  | .last single => .operand single
  | .link .. => .chain chain

/-- The node type of a statement. -/
def nodeType : Statement → NodeType
  | operand _ => .regularExpression
  | chain _ => .binaryExpression
  | declare _ | define _ _ => .variableDeclaration

end Statement

/-- A list of statements. -/
structure Program where
  /-- The statements in source order. -/
  body : List Statement
deriving DecidableEq, Repr, Inhabited

namespace Program

/-- The number of statements. -/
def size (program : Program) : Nat :=
  program.body.length

/-- Whether there are no statements. -/
def isEmpty (program : Program) : Bool :=
  program.body.isEmpty

end Program

end LexisFront
