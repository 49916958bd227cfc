import LexisFront.Limits
import LexisFront.Program.Basic

/-!
# Dump of a program

A dump shows one field of the program per line. Its lines, each with a depth, do not depend on
the width of the indentation; rendering only puts the spaces of its depth before each line. A
chain is shown as one block per operator, with the operand after it, the operator, and the
operand before it.
-/

namespace LexisFront.Dump

/-- A line of a dump. -/
structure Line where
  /-- How deep the line stands. -/
  depth : Nat
  /-- The text of the line. -/
  text : String
deriving DecidableEq, Repr

/-- The lines of an operand. -/
def operandLines (depth : Nat) (operand : Operand) : List Line := [
  ⟨depth, s!"type: \"{operand.nodeType.name}\","⟩,
  ⟨depth, s!"value: \"{operand.value}\""⟩]

/-- The block of one operator. -/
def linkLines (depth : Nat) (current : Operand) (operator : String) (next : Operand) :
    List Line :=
  [⟨depth + 1, "\x7b"⟩, ⟨depth + 2, "next: \x7b"⟩] ++ operandLines (depth + 3) next ++
    [⟨depth + 2, "\x7d,"⟩, ⟨depth + 2, s!"op: \"{operator}\","⟩, ⟨depth + 2, "current: \x7b"⟩] ++
    operandLines (depth + 3) current ++ [⟨depth + 2, "\x7d"⟩, ⟨depth + 1, "\x7d,"⟩]

/-- The blocks of a chain. -/
def blockLines (depth : Nat) : Chain → List Line
  | .last _ => []
  | .link operand operator next =>
    linkLines depth operand operator next.first ++ blockLines depth next

/-- The lines of a statement. -/
def statementLines (depth : Nat) : Statement → List Line
  | .operand operand =>
    [⟨depth, "\x7b"⟩, ⟨depth + 1, "stmt_type: \"RegularExpression\","⟩,
      ⟨depth + 1, "expr: \x7b"⟩] ++ operandLines (depth + 2) operand ++
      [⟨depth + 1, "\x7d"⟩, ⟨depth, "\x7d,"⟩]
  | .chain chain =>
    ⟨depth, "BinaryExpr \x7b"⟩ :: blockLines depth chain ++ [⟨depth, "\x7d,"⟩]
  | .declare name =>
    [⟨depth, "\x7b"⟩, ⟨depth + 1, "stmt_type: \"VariableDeclaration\","⟩,
      ⟨depth + 1, s!"identifier: \"{name}\","⟩, ⟨depth + 1, "value: null"⟩, ⟨depth, "\x7d,"⟩]
  | .define name value =>
    [⟨depth, "\x7b"⟩, ⟨depth + 1, "stmt_type: \"VariableDeclaration\","⟩,
      ⟨depth + 1, s!"identifier: \"{name}\","⟩, ⟨depth + 1, "value:"⟩] ++
      statementLines (depth + 2) value ++ [⟨depth, "\x7d,"⟩]

/-- The lines of a program. -/
def lines (program : Program) : List Line :=
  [⟨0, "\x7b"⟩, ⟨1, "type: \"Program\","⟩, ⟨1, "body: ["⟩] ++
    program.body.flatMap (statementLines 2) ++ [⟨1, "]"⟩, ⟨0, "\x7d"⟩]

/-- Appends a line with the spaces of its depth. -/
def writeLine (width : Nat) (out : String) (line : Line) : String :=
  (out.pushn ' ' (line.depth * min width Limits.maxIndentWidth) ++ line.text).push '\n'

/-- The dump of a program with a number of spaces per depth. -/
def render (width : Nat) (program : Program) : String :=
  (lines program).foldl (writeLine width) ""

end LexisFront.Dump
