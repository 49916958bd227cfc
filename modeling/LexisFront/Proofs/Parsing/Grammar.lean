import LexisFront.Program.Parser
import Mathlib.Data.List.Forall2

/-!
# The grammar as a relation

Which tokens spell which part of a program is said here without a reader: one rule for each form
of a statement, and a program is spelled by runs of tokens put one after the other. A declaration
without a value has no spelling, nor has a chain of one operand, nor a declaration whose value is
a declaration.

Runs need nothing between them. That they can still be told apart rests on two facts: a run has a
first token, and that token is no arithmetic operator.
-/

namespace LexisFront

/-- The kind of the token that spells an operand with a node type. -/
def NodeType.operandKind? : NodeType → Option Kind
  | numericLiteral => some .number
  | identifier => some .identifier
  | nullLiteral => some .null
  | _ => none

/-- A token spells an operand: its kind is that of the node type, and the texts are the same. -/
def Operand.SpelledBy (operand : Operand) (token : Token) : Prop :=
  operand.nodeType.operandKind? = some token.kind ∧ operand.value = token.value

/-- Operands that alternate with arithmetic operators spell a chain. -/
inductive Chain.SpelledBy : Chain → List Token → Prop
  /-- The last operand is one token. -/
  | last {operand : Operand} {token : Token} (spelled : operand.SpelledBy token) :
    SpelledBy (.last operand) [token]
  /-- Before it stand an operand and an operator with its text. -/
  | link {operand : Operand} {token operator : Token} {next : Chain} {run : List Token}
    (spelled : operand.SpelledBy token) (joins : operator.kind.isArithmetic = true)
    (follows : next.SpelledBy run) :
    SpelledBy (.link operand operator.value next) (token :: operator :: run)

/-- The tokens of a statement that is a value: an operand, or a chain of at least two. -/
inductive Statement.ValueSpelledBy : Statement → List Token → Prop
  /-- An operand is one token. -/
  | operand {operand : Operand} {token : Token} (spelled : operand.SpelledBy token) :
    ValueSpelledBy (.operand operand) [token]
  /-- A chain is spelled as such. -/
  | chain {chain : Chain} {run : List Token} (spelled : chain.SpelledBy run)
    (several : 2 ≤ chain.size) : ValueSpelledBy (.chain chain) run

/-- The tokens of a statement. -/
inductive Statement.SpelledBy : Statement → List Token → Prop
  /-- A value is spelled as such. -/
  | value {value : Statement} {run : List Token} (spelled : value.ValueSpelledBy run) :
    SpelledBy value run
  /-- A definition is a keyword, a name, an assignment and a value. -/
  | define {word name assign : Token} {value : Statement} {run : List Token}
    (opens : word.kind = .letWord) (named : name.kind = .identifier)
    (assigns : assign.kind = .assign) (spelled : value.ValueSpelledBy run) :
    SpelledBy (.define name.value value) (word :: name :: assign :: run)

/-- The tokens of a program: one run for each statement, in order, with nothing between. -/
def Program.SpelledBy (program : Program) (tokens : List Token) : Prop :=
  ∃ runs, List.Forall₂ Statement.SpelledBy program.body runs ∧ tokens = runs.flatten

/-- The chains of a statement, also in the value of a definition. -/
def Statement.chains : Statement → List Chain
  | .operand _ | .declare _ => []
  | .chain whole => [whole]
  | .define _ value => value.chains

/-- The chains of a program. -/
def Program.chains (program : Program) : List Chain :=
  program.body.flatMap Statement.chains

/-- No arithmetic operator comes first. -/
def Parser.Stops (tokens : List Token) : Prop :=
  ∀ token ∈ tokens.head?, token.kind.isArithmetic = false

/-- Three kinds of token spell an operand. -/
theorem NodeType.operandKind?_eq_some_iff {nodeType : NodeType} {kind : Kind} :
    nodeType.operandKind? = some kind ↔
      (nodeType = .numericLiteral ∧ kind = .number) ∨
        (nodeType = .identifier ∧ kind = .identifier) ∨
        (nodeType = .nullLiteral ∧ kind = .null) := by
  cases nodeType <;> simp [operandKind?, eq_comm]

namespace Operand

variable {operand : Operand} {token : Token}

/-- The operand of a token is the one that it spells. -/
theorem ofToken?_eq_some_iff : ofToken? token = some operand ↔ operand.SpelledBy token := by
  obtain ⟨nodeType, value⟩ := operand
  rw [SpelledBy, NodeType.operandKind?_eq_some_iff, ofToken?]
  split
  case h_1 number => simp [number, eq_comm]
  case h_2 identifier => simp [identifier, eq_comm]
  case h_3 null => simp [null, eq_comm]
  case h_4 noNumber noIdentifier noNull =>
    simp only [reduceCtorEq, false_iff]
    rintro ⟨⟨-, number⟩ | ⟨-, identifier⟩ | ⟨-, null⟩, -⟩
    · exact noNumber number
    · exact noIdentifier identifier
    · exact noNull null

/-- A token that spells an operand is neither an operator nor the keyword of a definition. -/
theorem SpelledBy.kind_of_token (spelled : operand.SpelledBy token) :
    token.kind.isArithmetic = false ∧ token.kind ≠ .letWord := by
  rcases NodeType.operandKind?_eq_some_iff.1 spelled.1 with ⟨-, kind⟩ | ⟨-, kind⟩ | ⟨-, kind⟩
  · rw [kind]
    decide
  · rw [kind]
    decide
  · rw [kind]
    decide

end Operand

namespace Chain

variable {chain : Chain} {run : List Token}

/-- The number of operands is one more than the number of links. -/
theorem size_eq_length_rest (chain : Chain) : chain.size = chain.rest.length + 1 := by
  induction chain with
  | last operand => rfl
  | link operand operator next ih => simp [size, rest, ih]

/-- A chain is spelled from its first operand on. -/
theorem SpelledBy.exists_first (spelled : chain.SpelledBy run) :
    ∃ token rest, run = token :: rest ∧ chain.first.SpelledBy token := by
  cases spelled with
  | last spelled => exact ⟨_, _, rfl, spelled⟩
  | link spelled _ _ => exact ⟨_, _, rfl, spelled⟩

end Chain

namespace Statement

variable {statement value : Statement} {chain : Chain} {run : List Token}

/-- The tokens of a chain spell its statement. -/
theorem valueSpelledBy_ofChain (spelled : chain.SpelledBy run) :
    (ofChain chain).ValueSpelledBy run := by
  cases spelled with
  | last spelled => exact .operand spelled
  | link spelled joins follows =>
    refine .chain (.link spelled joins follows) ?_
    rw [Chain.size, Chain.size_eq_length_rest]
    omega

/-- A value is the statement of a chain with the same tokens. -/
theorem ValueSpelledBy.exists_ofChain (spelled : value.ValueSpelledBy run) :
    ∃ chain, value = ofChain chain ∧ chain.SpelledBy run := by
  cases spelled with
  | operand spelled => exact ⟨_, rfl, .last spelled⟩
  | chain spelled several =>
    refine ⟨_, ?_, spelled⟩
    cases spelled with
    | last _ => simp [Chain.size] at several
    | link _ _ _ => rfl

/-- The statement of a chain is within a limit when the chain is one operand or is itself within
the limit. -/
theorem forall_chains_ofChain {limit : Nat} :
    (∀ part ∈ (ofChain chain).chains, part.size ≤ limit) ↔
      (chain.rest = [] ∨ 1 + chain.rest.length ≤ limit) := by
  cases chain with
  | last operand => simp [ofChain, chains, Chain.rest]
  | link operand operator next =>
    simp only [ofChain, chains, List.mem_singleton, forall_eq, Chain.size_eq_length_rest,
      Chain.rest, reduceCtorEq, false_or, Nat.add_comm 1]

/-- A statement is spelled from a token that is no operator. -/
theorem SpelledBy.stops_append (spelled : statement.SpelledBy run) (rest : List Token) :
    Parser.Stops (run ++ rest) := by
  cases spelled with
  | value spelled =>
    obtain ⟨chain, -, spelled⟩ := spelled.exists_ofChain
    obtain ⟨token, after, rfl, first⟩ := spelled.exists_first
    simpa [Parser.Stops] using first.kind_of_token.1
  | define opens _ _ _ => simp [Parser.Stops, opens, Kind.isArithmetic]

/-- A statement has tokens. -/
theorem SpelledBy.ne_nil (spelled : statement.SpelledBy run) : run ≠ [] := by
  cases spelled with
  | value spelled =>
    obtain ⟨chain, -, spelled⟩ := spelled.exists_ofChain
    obtain ⟨token, after, rfl, -⟩ := spelled.exists_first
    exact List.cons_ne_nil token after
  | define _ _ _ _ => exact List.cons_ne_nil _ _

end Statement

namespace Program

/-- The program without statements has no tokens. -/
theorem spelledBy_nil : (⟨[]⟩ : Program).SpelledBy [] := ⟨[], .nil, rfl⟩

/-- A statement before a program puts its tokens before those of the program. -/
theorem SpelledBy.cons {statement : Statement} {body : List Statement} {run rest : List Token}
    (first : statement.SpelledBy run) (others : (⟨body⟩ : Program).SpelledBy rest) :
    (⟨statement :: body⟩ : Program).SpelledBy (run ++ rest) := by
  obtain ⟨runs, spelled, rfl⟩ := others
  exact ⟨run :: runs, .cons first spelled, rfl⟩

/-- The tokens of a program are those of its first statement and those of the others. -/
theorem SpelledBy.exists_cons {statement : Statement} {body : List Statement}
    {tokens : List Token} (spelled : (⟨statement :: body⟩ : Program).SpelledBy tokens) :
    ∃ run rest, tokens = run ++ rest ∧ statement.SpelledBy run ∧
      (⟨body⟩ : Program).SpelledBy rest := by
  obtain ⟨runs, each, rfl⟩ := spelled
  cases each with
  | cons first others => exact ⟨_, _, rfl, first, _, others, rfl⟩

/-- The tokens of a program do not begin with an operator. -/
theorem SpelledBy.stops {program : Program} {tokens : List Token}
    (spelled : program.SpelledBy tokens) : Parser.Stops tokens := by
  obtain ⟨body⟩ := program
  cases body with
  | nil =>
    obtain ⟨runs, each, rfl⟩ := spelled
    cases each
    simp [Parser.Stops]
  | cons statement body =>
    obtain ⟨run, rest, rfl, first, -⟩ := spelled.exists_cons
    exact first.stops_append rest

end Program

end LexisFront
