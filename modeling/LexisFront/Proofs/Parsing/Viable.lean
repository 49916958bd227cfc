import LexisFront.Proofs.Parsing.Grammar

/-!
# Sentences and what can begin one

Tokens are a sentence when they spell a program of any size, and viable when more tokens can make
them a sentence. Both are properties of the grammar alone. They are decided by reading the kinds
of the tokens from the left with one of five expectations in mind, and the two views are shown to
agree: every sentence keeps the expectations met up to its end, and whatever meets them can be
completed, because each expectation says which few tokens complete a statement.
-/

namespace LexisFront

namespace Grammar

/-- Tokens that spell a program, whatever its size. -/
def IsSentence (tokens : List Token) : Prop :=
  ∃ program : Program, program.SpelledBy tokens

/-- Tokens that begin a sentence. -/
def IsViable (tokens : List Token) : Prop :=
  ∃ rest, IsSentence (tokens ++ rest)

/-- A token of a kind can stand after tokens: some such token keeps them the beginning of a
sentence. -/
def Admits (before : List Token) (kind : Kind) : Prop :=
  ∃ token : Token, token.kind = kind ∧ IsViable (before ++ [token])

end Grammar

/-- What may follow the tokens of a program read so far. -/
inductive Expectation where
  /-- A statement or the end. -/
  | statement
  /-- The name of a definition. -/
  | name
  /-- The assignment of a definition. -/
  | assign
  /-- An operand. -/
  | operand
  /-- An operator, a statement or the end. -/
  | link
deriving DecidableEq, Repr

namespace Expectation

/-- What follows the first token of a statement. -/
def opening? (kind : Kind) : Option Expectation :=
  if kind.isOperand then some link else if kind = .letWord then some name else none

/-- What follows a token of a kind, provided that the kind is expected. -/
def after? : Expectation → Kind → Option Expectation
  | statement, kind => opening? kind
  | name, kind => if kind = .identifier then some assign else none
  | assign, kind => if kind = .assign then some operand else none
  | operand, kind => if kind.isOperand then some link else none
  | link, kind => if kind.isArithmetic then some operand else opening? kind

/-- What follows tokens, provided that each of them is expected. -/
def afterAll? (expectation : Expectation) (tokens : List Token) : Option Expectation :=
  tokens.foldlM (fun current token => current.after? token.kind) expectation

/-- Whether the tokens may end. -/
def isComplete : Expectation → Bool
  | statement | link => true
  | name | assign | operand => false

/-- No tokens leave an expectation as it is. -/
@[simp]
theorem afterAll?_nil (expectation : Expectation) :
    expectation.afterAll? [] = some expectation := rfl

/-- Tokens are read from the first one on. -/
@[simp]
theorem afterAll?_cons (expectation : Expectation) (token : Token) (rest : List Token) :
    expectation.afterAll? (token :: rest) =
      (expectation.after? token.kind).bind (·.afterAll? rest) := rfl

/-- Tokens after others are read with what those leave to expect. -/
theorem afterAll?_append (expectation : Expectation) (left right : List Token) :
    expectation.afterAll? (left ++ right) =
      (expectation.afterAll? left).bind (·.afterAll? right) :=
  List.foldlM_append

/-- Where the tokens may end, the first token of a statement is expected. -/
theorem after?_of_isComplete {expectation : Expectation} {kind : Kind}
    (complete : expectation.isComplete = true) (other : kind.isArithmetic = false) :
    expectation.after? kind = opening? kind := by
  cases expectation with
  | statement => rfl
  | link => simp [after?, other]
  | name => contradiction
  | assign => contradiction
  | operand => contradiction

end Expectation

/-- The tokens that spell operands are those of three kinds. -/
theorem Operand.exists_spelledBy_iff {token : Token} :
    (∃ operand : Operand, operand.SpelledBy token) ↔ token.kind.isOperand = true := by
  constructor
  · rintro ⟨operand, spelled⟩
    rcases NodeType.operandKind?_eq_some_iff.1 spelled.1 with ⟨-, kind⟩ | ⟨-, kind⟩ | ⟨-, kind⟩
    · rw [kind]
      rfl
    · rw [kind]
      rfl
    · rw [kind]
      rfl
  · intro proper
    unfold Kind.isOperand at proper
    split at proper
    case h_1 kind => exact ⟨⟨.numericLiteral, token.value⟩, congrArg some kind.symm, rfl⟩
    case h_2 kind => exact ⟨⟨.identifier, token.value⟩, congrArg some kind.symm, rfl⟩
    case h_3 kind => exact ⟨⟨.nullLiteral, token.value⟩, congrArg some kind.symm, rfl⟩
    case h_4 => contradiction

/-- A token that spells an operand has one of the kinds of operands. -/
theorem Operand.SpelledBy.isOperand {operand : Operand} {token : Token}
    (spelled : operand.SpelledBy token) : token.kind.isOperand = true :=
  Operand.exists_spelledBy_iff.1 ⟨operand, spelled⟩

namespace Expectation

/-- The tokens of a chain are expected where an operand is, and an operator may follow. -/
theorem afterAll?_of_chain {chain : Chain} {run : List Token} (spelled : chain.SpelledBy run) :
    operand.afterAll? run = some link := by
  induction spelled with
  | last spelled => simp [after?, spelled.isOperand]
  | link spelled joins follows ih => simp [after?, spelled.isOperand, joins, ih]

/-- The tokens of a statement are expected wherever the tokens before may end, and an operator
may follow. -/
theorem afterAll?_of_statement {statement : Statement} {run : List Token}
    (spelled : statement.SpelledBy run) {expectation : Expectation}
    (complete : expectation.isComplete = true) : expectation.afterAll? run = some link := by
  cases spelled with
  | value valued =>
    obtain ⟨chain, -, spelled⟩ := valued.exists_ofChain
    have read := afterAll?_of_chain spelled
    obtain ⟨token, rest, rfl, first⟩ := spelled.exists_first
    have opened : expectation.after? token.kind = operand.after? token.kind := by
      rw [after?_of_isComplete complete first.kind_of_token.1]
      simp [opening?, after?, first.isOperand]
    rw [afterAll?_cons, opened, ← afterAll?_cons]
    exact read
  | @define word named assigned value run opens names assigns valued =>
    obtain ⟨chain, -, spelled⟩ := valued.exists_ofChain
    have opened : expectation.after? word.kind = some name := by
      rw [opens]
      exact after?_of_isComplete complete rfl
    rw [afterAll?_cons, opened, Option.bind_some]
    simp [after?, names, assigns, afterAll?_of_chain spelled]

/-- The tokens of statements are expected wherever the tokens before may end, and may end
themselves. -/
theorem exists_afterAll?_of_statements {body : List Statement} {tokens : List Token}
    (spelled : (⟨body⟩ : Program).SpelledBy tokens) {expectation : Expectation}
    (complete : expectation.isComplete = true) :
    ∃ later, expectation.afterAll? tokens = some later ∧ later.isComplete = true := by
  induction body generalizing tokens expectation with
  | nil =>
    obtain ⟨runs, each, rfl⟩ := spelled
    cases each
    exact ⟨expectation, rfl, complete⟩
  | cons statement body ih =>
    obtain ⟨run, rest, rfl, first, others⟩ := spelled.exists_cons
    rw [afterAll?_append, afterAll?_of_statement first complete]
    exact ih others rfl

end Expectation

/-- An operator and an operand continue a chain. -/
theorem Chain.SpelledBy.exists_continued {chain : Chain} {run : List Token}
    (spelled : chain.SpelledBy run) {operator token : Token}
    (joins : operator.kind.isArithmetic = true) (proper : token.kind.isOperand = true) :
    ∃ longer : Chain, longer.SpelledBy (run ++ [operator, token]) := by
  induction spelled with
  | last first =>
    obtain ⟨operand, second⟩ := Operand.exists_spelledBy_iff.2 proper
    exact ⟨_, .link first joins (.last second)⟩
  | link first joined follows ih =>
    obtain ⟨longer, continued⟩ := ih
    exact ⟨_, .link first joined continued⟩

/-- An operator and an operand continue the chain at the end of a statement. -/
theorem Statement.SpelledBy.exists_continued {statement : Statement} {run : List Token}
    (spelled : statement.SpelledBy run) {operator token : Token}
    (joins : operator.kind.isArithmetic = true) (proper : token.kind.isOperand = true) :
    ∃ longer : Statement, longer.SpelledBy (run ++ [operator, token]) := by
  cases spelled with
  | value valued =>
    obtain ⟨chain, -, spelled⟩ := valued.exists_ofChain
    obtain ⟨longer, continued⟩ := spelled.exists_continued joins proper
    exact ⟨_, .value (valueSpelledBy_ofChain continued)⟩
  | define opens names assigns valued =>
    obtain ⟨chain, -, spelled⟩ := valued.exists_ofChain
    obtain ⟨longer, continued⟩ := spelled.exists_continued joins proper
    exact ⟨_, .define opens names assigns (valueSpelledBy_ofChain continued)⟩

namespace Grammar

/-- Tokens that end in a statement, whose chain an operator may continue. -/
def EndsInStatement (tokens : List Token) : Prop :=
  ∃ before statement run, tokens = before ++ run ∧ IsSentence before ∧
    Statement.SpelledBy statement run

/-- A statement after a sentence makes a longer one. -/
theorem EndsInStatement.isSentence {tokens : List Token} (ends : EndsInStatement tokens) :
    IsSentence tokens := by
  obtain ⟨before, statement, run, rfl, ⟨program, runs, spelled, rfl⟩, last⟩ := ends
  refine ⟨⟨program.body ++ [statement]⟩, runs ++ [run], ?_, by simp⟩
  exact List.rel_append spelled (.cons last .nil)

/-- No tokens spell the program without statements. -/
theorem isSentence_nil : IsSentence [] := ⟨_, Program.spelledBy_nil⟩

end Grammar

namespace Expectation

open Grammar

/-- What tokens that lead to an expectation are good for: they are a sentence, or any tokens of
the kinds expected next, up to the first operand, make them end in a statement. -/
def Kept : Expectation → List Token → Prop
  | statement, tokens => IsSentence tokens
  | link, tokens => EndsInStatement tokens
  | operand, tokens => ∀ token : Token, token.kind.isOperand = true →
      EndsInStatement (tokens ++ [token])
  | assign, tokens => ∀ sign token : Token, sign.kind = .assign → token.kind.isOperand = true →
      EndsInStatement (tokens ++ [sign, token])
  | name, tokens => ∀ named sign token : Token, named.kind = .identifier → sign.kind = .assign →
      token.kind.isOperand = true → EndsInStatement (tokens ++ [named, sign, token])

/-- The first token of a statement after a sentence leads to what is kept. -/
theorem kept_of_opening {tokens : List Token} (sentence : IsSentence tokens) {token : Token}
    {later : Expectation} (opened : opening? token.kind = some later) :
    later.Kept (tokens ++ [token]) := by
  unfold opening? at opened
  split at opened
  · rename_i proper
    obtain rfl := Option.some.inj opened
    obtain ⟨operand, spelled⟩ := Operand.exists_spelledBy_iff.2 proper
    exact ⟨tokens, _, [token], rfl, sentence, .value (.operand spelled)⟩
  · split at opened
    · rename_i opens
      obtain rfl := Option.some.inj opened
      intro named sign first names assigns proper
      obtain ⟨operand, spelled⟩ := Operand.exists_spelledBy_iff.2 proper
      exact ⟨tokens, _, [token, named, sign, first], by simp, sentence,
        .define opens names assigns (.operand spelled)⟩
    · contradiction

/-- An expected token leads from what is kept to what is kept. -/
theorem Kept.after {expectation later : Expectation} {tokens : List Token}
    (kept : expectation.Kept tokens) {token : Token}
    (expected : expectation.after? token.kind = some later) : later.Kept (tokens ++ [token]) := by
  cases expectation with
  | statement => exact kept_of_opening kept expected
  | link =>
    rw [after?] at expected
    split at expected
    · rename_i joins
      obtain rfl := Option.some.inj expected
      -- The operator does not begin a statement: it reopens the one that the tokens end in.
      obtain ⟨before, statement, run, rfl, sentence, spelled⟩ := kept
      intro second proper
      obtain ⟨longer, continued⟩ := spelled.exists_continued joins proper
      exact ⟨before, longer, run ++ [token, second], by simp, sentence, continued⟩
    · exact kept_of_opening kept.isSentence expected
  | name =>
    obtain ⟨names, rfl⟩ : token.kind = .identifier ∧ assign = later := by
      simpa [after?] using expected
    intro sign first assigns proper
    simpa using kept token sign first names assigns proper
  | assign =>
    obtain ⟨assigns, rfl⟩ : token.kind = .assign ∧ operand = later := by
      simpa [after?] using expected
    intro first proper
    simpa using kept token first assigns proper
  | operand =>
    obtain ⟨proper, rfl⟩ : token.kind.isOperand = true ∧ link = later := by
      simpa [after?] using expected
    exact kept token proper

/-- Expected tokens lead from what is kept to what is kept. -/
theorem Kept.afterAll {expectation later : Expectation} {before tokens : List Token}
    (kept : expectation.Kept before) (expected : expectation.afterAll? tokens = some later) :
    later.Kept (before ++ tokens) := by
  induction tokens generalizing expectation before with
  | nil =>
    obtain rfl := Option.some.inj expected
    simpa using kept
  | cons token rest ih =>
    rw [afterAll?_cons] at expected
    obtain ⟨next, first, others⟩ := Option.bind_eq_some_iff.1 expected
    simpa using ih (kept.after first) others

/-- Tokens that are expected from the beginning on keep what they lead to. -/
theorem kept_of_afterAll? {expectation : Expectation} {tokens : List Token}
    (expected : statement.afterAll? tokens = some expectation) : expectation.Kept tokens := by
  have start : statement.Kept [] := isSentence_nil
  exact start.afterAll expected

/-- What is kept can be completed to a sentence. -/
theorem Kept.isViable {expectation : Expectation} {tokens : List Token}
    (kept : expectation.Kept tokens) : IsViable tokens := by
  let named : Token := ⟨.identifier, "x", .zero⟩
  let sign : Token := ⟨.assign, "=", .zero⟩
  let number : Token := ⟨.number, "0", .zero⟩
  cases expectation with
  | statement => exact ⟨[], (List.append_nil tokens).symm ▸ kept⟩
  | link => exact ⟨[], (List.append_nil tokens).symm ▸ EndsInStatement.isSentence kept⟩
  | operand => exact ⟨[number], (kept number rfl).isSentence⟩
  | assign => exact ⟨[sign, number], (kept sign number rfl rfl).isSentence⟩
  | name => exact ⟨[named, sign, number], (kept named sign number rfl rfl rfl).isSentence⟩

/-- Where the tokens may end, what is kept is a sentence. -/
theorem Kept.isSentence {expectation : Expectation} {tokens : List Token}
    (kept : expectation.Kept tokens) (complete : expectation.isComplete = true) :
    IsSentence tokens := by
  cases expectation with
  | statement => exact kept
  | link => exact EndsInStatement.isSentence kept
  | name => contradiction
  | assign => contradiction
  | operand => contradiction

end Expectation

namespace Grammar

variable {tokens before : List Token}

/-- Tokens are a sentence exactly when each of them is expected and they may end. -/
theorem isSentence_iff :
    IsSentence tokens ↔ ∃ expectation, Expectation.statement.afterAll? tokens = some expectation ∧
      expectation.isComplete = true := by
  constructor
  · rintro ⟨⟨body⟩, spelled⟩
    exact Expectation.exists_afterAll?_of_statements spelled rfl
  · rintro ⟨expectation, expected, complete⟩
    exact (Expectation.kept_of_afterAll? expected).isSentence complete

/-- Tokens begin a sentence exactly when each of them is expected. -/
theorem isViable_iff :
    IsViable tokens ↔ ∃ expectation, Expectation.statement.afterAll? tokens = some expectation := by
  constructor
  · rintro ⟨rest, sentence⟩
    obtain ⟨last, expected, -⟩ := isSentence_iff.1 sentence
    rw [Expectation.afterAll?_append] at expected
    obtain ⟨expectation, first, -⟩ := Option.bind_eq_some_iff.1 expected
    exact ⟨expectation, first⟩
  · rintro ⟨expectation, expected⟩
    exact (Expectation.kept_of_afterAll? expected).isViable

/-- A token after viable ones keeps them viable exactly when its kind is expected. -/
theorem isViable_concat_iff {expectation : Expectation}
    (reached : Expectation.statement.afterAll? before = some expectation) (token : Token) :
    IsViable (before ++ [token]) ↔ (expectation.after? token.kind).isSome = true := by
  rw [isViable_iff, Expectation.afterAll?_append, reached, Option.isSome_iff_exists]
  simp

/-- A kind can stand after viable tokens exactly when it is expected. -/
theorem admits_iff {expectation : Expectation}
    (reached : Expectation.statement.afterAll? before = some expectation) (kind : Kind) :
    Admits before kind ↔ (expectation.after? kind).isSome = true := by
  constructor
  · rintro ⟨token, rfl, viable⟩
    exact (isViable_concat_iff reached token).1 viable
  · intro expected
    exact ⟨⟨kind, "", .zero⟩, rfl, (isViable_concat_iff reached _).2 expected⟩

end Grammar

end LexisFront
