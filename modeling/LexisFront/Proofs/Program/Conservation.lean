import LexisFront.Proofs.Lexing.Census
import LexisFront.Proofs.Parsing.Acceptance
import LexisFront.Proofs.Pipeline.Stages

/-!
# Conservation of tokens

Three parts of a run count on their own: the lexer moves its counters, the token sequence has a
size, and the program has nodes. Nothing is lost or counted twice between them. The tokens that
spell a program are determined by its nodes: a declaration takes a keyword, a name and an
assignment, a link of a chain takes an operator, and an operand takes one token of its own kind.

The counts are taken over the tree by recursion and are additive, as the census of tokens is, so
each rule of the grammar is counted by itself.
-/

namespace LexisFront

/-- How many nodes of each sort a part of a program has. -/
structure NodeCount where
  /-- Declarations of names. -/
  declarations : Nat := 0
  /-- Links of chains, each of which is an operator. -/
  links : Nat := 0
  /-- Operands that are identifiers. -/
  identifiers : Nat := 0
  /-- Operands that are numeric literals. -/
  numbers : Nat := 0
  /-- Operands that are null literals. -/
  nulls : Nat := 0
deriving DecidableEq, Repr

namespace NodeCount

/-- Two counts together. -/
instance : Add NodeCount where
  add left right := ⟨left.declarations + right.declarations, left.links + right.links,
    left.identifiers + right.identifiers, left.numbers + right.numbers,
    left.nulls + right.nulls⟩

/-- Two counts together have the sums of their counts. -/
theorem add_def (left right : NodeCount) :
    left + right = ⟨left.declarations + right.declarations, left.links + right.links,
      left.identifiers + right.identifiers, left.numbers + right.numbers,
      left.nulls + right.nulls⟩ := rfl

/-- The census of the tokens that spell nodes. -/
def census (count : NodeCount) : Census where
  total := 3 * count.declarations + count.identifiers + count.numbers + count.nulls + count.links
  keywords := count.declarations
  identifiers := count.identifiers + count.declarations
  numbers := count.numbers
  nulls := count.nulls
  operators := count.links + count.declarations
  grouping := 0

/-- Nodes together are spelled by their tokens together. -/
theorem census_add (left right : NodeCount) :
    (left + right).census = left.census + right.census := by
  simp only [add_def, Census.add_def, census, Census.mk.injEq, true_and, and_true]
  refine ⟨?_, ?_, ?_⟩ <;> omega

end NodeCount

/-- The nodes of an operand: one, of its own sort. -/
def Operand.nodeCount (operand : Operand) : NodeCount :=
  match operand.nodeType with
  | .identifier => { identifiers := 1 }
  | .numericLiteral => { numbers := 1 }
  | .nullLiteral => { nulls := 1 }
  | _ => {}

/-- The nodes of a chain: its operands and the links between them. -/
def Chain.nodeCount : Chain → NodeCount
  | last operand => operand.nodeCount
  | link operand _ next => operand.nodeCount + { links := 1 } + next.nodeCount

/-- The nodes of a statement, those in the value of a declaration included. -/
def Statement.nodeCount : Statement → NodeCount
  | .operand single => single.nodeCount
  | .chain whole => whole.nodeCount
  | .declare _ => { declarations := 1 }
  | .define _ value => { declarations := 1 } + value.nodeCount

/-- The nodes of a program: those of all its statements. -/
def Program.nodeCount (program : Program) : NodeCount :=
  program.body.foldr (fun statement count => statement.nodeCount + count) {}

/-- The token that spells an operand is counted as its node. -/
theorem Operand.SpelledBy.census_eq {operand : Operand} {token : Token}
    (spelled : operand.SpelledBy token) :
    ({} : Census).add token.kind = operand.nodeCount.census := by
  obtain ⟨nodeType, value⟩ := operand
  rcases NodeType.operandKind?_eq_some_iff.1 spelled.1 with ⟨sort, kind⟩ | ⟨sort, kind⟩ |
    ⟨sort, kind⟩
  all_goals
    obtain rfl : nodeType = _ := sort
    rw [kind]
    rfl

/-- An arithmetic operator is counted as a link. -/
theorem Kind.census_of_isArithmetic {kind : Kind} (joins : kind.isArithmetic = true) :
    ({} : Census).add kind = NodeCount.census { links := 1 } := by
  unfold isArithmetic at joins
  split at joins
  case h_5 => contradiction
  all_goals rfl

/-- The tokens of a chain are counted as its nodes. -/
theorem Chain.SpelledBy.census_eq {chain : Chain} {run : List Token}
    (spelled : chain.SpelledBy run) : Census.ofTokens run = chain.nodeCount.census := by
  induction spelled with
  | last spelled => exact spelled.census_eq
  | link spelled joins follows ih =>
    rw [Census.ofTokens_cons, Census.ofTokens_cons, spelled.census_eq,
      Kind.census_of_isArithmetic joins, ih, nodeCount, NodeCount.census_add,
      NodeCount.census_add, Census.add_assoc]

/-- The tokens of a value are counted as its nodes. -/
theorem Statement.ValueSpelledBy.census_eq {value : Statement} {run : List Token}
    (spelled : value.ValueSpelledBy run) : Census.ofTokens run = value.nodeCount.census := by
  cases spelled with
  | operand spelled => exact spelled.census_eq
  | chain spelled several => exact spelled.census_eq

/-- The tokens of a statement are counted as its nodes; the keyword, the name and the assignment of
a definition are its declaration. -/
theorem Statement.SpelledBy.census_eq {statement : Statement} {run : List Token}
    (spelled : statement.SpelledBy run) : Census.ofTokens run = statement.nodeCount.census := by
  cases spelled with
  | value spelled => exact spelled.census_eq
  | @define word name assign value run opens named assigns spelled =>
    have heads : Census.ofTokens [word, name, assign] =
        NodeCount.census { declarations := 1 } := by
      simp only [Census.ofTokens, List.foldl_cons, List.foldl_nil, opens, named, assigns]
      rfl
    have whole : word :: name :: assign :: run = [word, name, assign] ++ run := rfl
    rw [whole, Census.ofTokens_append, heads, spelled.census_eq, nodeCount, NodeCount.census_add]

/-- The tokens of a program are counted as its nodes. -/
theorem Program.SpelledBy.census_eq {program : Program} {tokens : List Token}
    (spelled : program.SpelledBy tokens) :
    Census.ofTokens tokens = program.nodeCount.census := by
  obtain ⟨body⟩ := program
  induction body generalizing tokens with
  | nil =>
    obtain ⟨runs, each, rfl⟩ := spelled
    cases each
    rfl
  | cons statement body ih =>
    obtain ⟨run, rest, rfl, first, others⟩ := spelled.exists_cons
    have counts : (⟨statement :: body⟩ : Program).nodeCount =
        statement.nodeCount + (⟨body⟩ : Program).nodeCount := rfl
    rw [Census.ofTokens_append, first.census_eq, ih others, counts, NodeCount.census_add]

/-- A program accounts for every token before the terminator of the sequence that it was parsed
from. -/
theorem Parsing.census_of_ok {tokens : TokenSequence} {program : Program}
    (parsed : (ofTokens tokens.toList).result = .ok program) :
    Census.ofTokens tokens.body = program.nodeCount.census := by
  obtain ⟨body, eof, split, -, -, -, -, spelled⟩ := result_ofTokensWithin_eq_ok_iff.1 parsed
  obtain ⟨rfl, -⟩ : tokens.body = body ∧ [tokens.last] = [eof] := List.append_inj' split rfl
  exact spelled.census_eq

namespace FrontRun

/-- Nothing is lost or counted twice between the tokens, the counters and the program of a run that
succeeds, for every source and under every setting. Each declaration accounts for a keyword, an
identifier and an operator, each link for an operator, and each operand for one token of its own
sort; there is no parenthesis, and the terminator is the only other token. -/
theorem tally_eq_nodeCount {settings : LexicalSettings} {source : String} {run : FrontRun}
    {result : FrontResult} (ran : ofSource? settings source = some run)
    (succeeded : run.result = .ok result) :
    let nodes := result.program.nodeCount
    result.tally.keywordTokens = nodes.declarations ∧
      result.tally.identifierTokens = nodes.identifiers + nodes.declarations ∧
      result.tally.numberTokens = nodes.numbers ∧
      result.tally.nullTokens = nodes.nulls ∧
      result.tally.operatorTokens = nodes.links + nodes.declarations ∧
      result.tally.groupingTokens = 0 ∧
      result.tokens.size = result.tally.totalTokens ∧
      result.tally.totalTokens = 3 * nodes.declarations + nodes.identifiers + nodes.numbers +
        nodes.nulls + nodes.links + 1 := by
  intro nodes
  obtain ⟨lexing, before, lexed, rfl⟩ := exists_lexing_of_ofSource? ran
  obtain ⟨read, parsed⟩ := exists_tokens_of_ok succeeded
  obtain ⟨counted, total⟩ := Lexing.census_eq lexed read
  have conserved : lexing.tally.census result.tokens.run.size = nodes.census :=
    counted.trans (Parsing.census_of_ok parsed)
  rw [Tally.census, NodeCount.census, Census.mk.injEq] at conserved
  obtain ⟨size, keywords, identifiers, numbers, nulls, operators, grouping⟩ := conserved
  rw [tally_of_ok succeeded]
  refine ⟨keywords, identifiers, numbers, nulls, operators, grouping, total.symm, ?_⟩
  rw [total, TokenSequence.size, size]

/-- This source has a definition by a chain, an operator that has lost a letter, and an operand that
begins a statement of its own. -/
theorem tally_eq_nodeCount_truncated :
    ∃ run result, ofSource? ⟨false, true, true, true⟩ "let n = 12 +é x\nnull n" = some run ∧
      run.result = .ok result ∧ result.program.nodeCount = ⟨1, 1, 2, 1, 1⟩ ∧
      result.tally.identifierTokens = 3 ∧ result.tally.operatorTokens = 2 ∧
      result.tokens.size = 9 := by
  have outcome : (ofSource? ⟨false, true, true, true⟩ "let n = 12 +é x\nnull n").map
      (·.result.toOption.map (·.program.nodeCount)) = some (some ⟨1, 1, 2, 1, 1⟩) := rfl
  obtain ⟨run, ran, found⟩ := Option.map_eq_some_iff.1 outcome
  cases succeeded : run.result with
  | error error => simp [succeeded, Except.toOption] at found
  | ok result =>
    rw [succeeded] at found
    have nodes : result.program.nodeCount = ⟨1, 1, 2, 1, 1⟩ := Option.some.inj found
    obtain ⟨-, identifiers, -, -, operators, -, size, total⟩ := tally_eq_nodeCount ran succeeded
    rw [nodes] at identifiers operators total
    exact ⟨run, result, ran, succeeded, nodes, identifiers, operators, size.trans total⟩

end FrontRun

end LexisFront
