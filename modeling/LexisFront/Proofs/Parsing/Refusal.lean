import LexisFront.Proofs.Parsing.Acceptance
import LexisFront.Proofs.Parsing.Viable

/-!
# Where parsing stops

A reader fails at the first token that is not expected, at the end of the tokens when they may not
end, or at a limit. `Parser.Fails` says so of an error, with the tokens passed before it and what
was expected after them, and each reader is shown to fail in no other way. What is expected is a
property of the grammar, so the error of a parse tells where its tokens stop being the beginning
of a sentence, and names what could have stood there.
-/

namespace LexisFront

namespace Expectation

/-- The label of what is expected. -/
def label : Expectation → String
  | name => "identifier"
  | assign => "'='"
  | statement | operand | link => "operand"

/-- The error about a token that is not expected. Only where an operand may stand is a
parenthesis an error of its own. -/
def refusal (expectation : Expectation) (token : Token) : ParseError :=
  match expectation with
  | name | assign => .unexpectedToken expectation.label token.value token.span
  | statement | operand | link =>
    if token.kind = .leftParen ∨ token.kind = .rightParen then
      .unsupportedToken token.value token.span
    else
      .unexpectedToken expectation.label token.value token.span

end Expectation

namespace Parser

/-- How reading tokens fails, from what is expected before them and up to the terminator at a
place. -/
inductive Fails (stop : Span) (expectation : Expectation) (tokens : List Token) :
    ParseError → Prop
  /-- A token is not expected after those before it. -/
  | refused {token : Token} {reached : Expectation} (before after : List Token)
      (split : tokens = before ++ token :: after)
      (passed : expectation.afterAll? before = some reached)
      (refused : reached.after? token.kind = none) :
      Fails stop expectation tokens (reached.refusal token)
  /-- The tokens may not end where they end. -/
  | ended {reached : Expectation} (passed : expectation.afterAll? tokens = some reached)
      (incomplete : reached.isComplete = false) :
      Fails stop expectation tokens (.unexpectedEnd reached.label stop)
  /-- A chain is too long at one of the operators. -/
  | limited {operator : Token} {length max : Nat} (member : operator ∈ tokens) :
      Fails stop expectation tokens (.chainTooLong length max operator.span)

variable {limits : ParseLimits} {stop : Span} {expectation : Expectation} {error : ParseError}
  {tokens : List Token}

/-- Tokens that are passed before a failure leave it the same. -/
theorem Fails.append {reached : Expectation} {passed : List Token}
    (expected : expectation.afterAll? passed = some reached)
    (fails : Fails stop reached tokens error) :
    Fails stop expectation (passed ++ tokens) error := by
  cases fails with
  | refused before after split reads refused =>
    refine .refused (passed ++ before) after ?_ ?_ refused
    · rw [split, List.append_assoc]
    · rw [Expectation.afterAll?_append, expected, Option.bind_some, reads]
  | ended reads incomplete =>
    refine .ended ?_ incomplete
    rw [Expectation.afterAll?_append, expected, Option.bind_some, reads]
  | limited member => exact .limited (List.mem_append_right passed member)

/-- The first token of a statement that defines nothing fails as an operand does. -/
theorem Fails.of_operand {token : Token} {rest : List Token}
    (opens : expectation.after? token.kind = Expectation.opening? token.kind)
    (complete : expectation.isComplete = true) (other : token.kind ≠ .letWord)
    (fails : Fails stop .operand (token :: rest) error) :
    Fails stop expectation (token :: rest) error := by
  have same : Expectation.operand.after? token.kind = expectation.after? token.kind := by
    rw [opens]
    simp [Expectation.after?, Expectation.opening?, other]
  have reading (tokens : List Token) : Expectation.operand.afterAll? (token :: tokens) =
      expectation.afterAll? (token :: tokens) := by
    rw [Expectation.afterAll?_cons, same, Expectation.afterAll?_cons]
  -- Only when the first token itself is refused does the error depend on what was expected.
  cases fails with
  | @refused found reached before after split passed refused =>
    cases before with
    | nil =>
      obtain ⟨rfl, rfl⟩ := List.cons.inj split
      obtain rfl := Option.some.inj passed
      have label : Expectation.operand.refusal token = expectation.refusal token := by
        cases expectation with
        | statement | operand | link => rfl
        | name | assign => contradiction
      rw [label]
      exact .refused [] rest rfl rfl (same ▸ refused)
    | cons first before =>
      obtain ⟨rfl, rfl⟩ := List.cons.inj split
      exact .refused (token :: before) after rfl (reading before ▸ passed) refused
  | ended passed incomplete => exact .ended (reading rest ▸ passed) incomplete
  | limited member => exact .limited member

/-- A mapped result is an error exactly when the result is. -/
theorem map_eq_error_iff {α β : Type} {change : α → β} {result : Except ParseError α} :
    result.map change = .error error ↔ result = .error error := by
  cases result <;> simp [Except.map]

/-- A token that is read as no operand is none, and is refused as such. -/
theorem operandOf_eq_error {token : Token} (failed : operandOf token = .error error) :
    Expectation.operand.after? token.kind = none ∧
      error = Expectation.operand.refusal token := by
  have other : token.kind.isOperand = false := by
    rw [Bool.eq_false_iff]
    intro proper
    obtain ⟨operand, spelled⟩ := Operand.exists_spelledBy_iff.2 proper
    rw [operandOf_eq_ok_iff.2 spelled] at failed
    contradiction
  refine ⟨by simp [Expectation.after?, other], ?_⟩
  unfold operandOf at failed
  split at failed
  · contradiction
  · split at failed
    · rename_i paren
      simpa [Expectation.refusal, paren] using failed.symm
    · rename_i paren
      simpa [Expectation.refusal, paren] using failed.symm
    · rename_i noLeft noRight
      obtain rfl := Except.error.inj failed
      rw [Expectation.refusal, if_neg (not_or.2 ⟨noLeft, noRight⟩)]
      rfl

/-- A token that is read as an operand is expected as one. -/
theorem after?_of_operandOf {token : Token} {operand : Operand}
    (found : operandOf token = .ok operand) :
    Expectation.operand.after? token.kind = some .link := by
  simp [Expectation.after?, (operandOf_eq_ok_iff.1 found).isOperand]

/-- Reading a token of a kind fails where nothing but that kind is expected. -/
theorem fails_of_readKind {kind : Kind} {expected : String}
    (only : ∀ other, other ≠ kind → expectation.after? other = none)
    (label : expectation.label = expected) (incomplete : expectation.isComplete = false)
    (plain : ∀ token, expectation.refusal token =
      .unexpectedToken expected token.value token.span)
    (failed : readKind stop kind expected tokens = .error error) :
    Fails stop expectation tokens error := by
  cases tokens with
  | nil =>
    obtain rfl := Except.error.inj failed
    rw [← label]
    exact .ended rfl incomplete
  | cons token rest =>
    rw [readKind] at failed
    split at failed
    · contradiction
    · rename_i other
      obtain rfl := Except.error.inj failed
      rw [← plain]
      exact .refused [] rest rfl rfl (only token.kind other)

/-- Reading links fails at an operator without an operand, or at one too many. -/
theorem fails_of_readLinks {size : Nat} {links : List (String × Operand)}
    (failed : readLinks limits stop size links tokens = .error error) :
    Fails stop .link tokens error := by
  fun_induction readLinks limits stop size links tokens with
  | case1 => contradiction
  | case2 size links operator joins =>
    obtain rfl := Except.error.inj failed
    have passed : Expectation.link.afterAll? [operator] = some .operand := by
      simp [Expectation.after?, joins]
    exact .ended passed rfl
  | case3 => contradiction
  | case4 size links operator token rest joins problem found =>
    obtain rfl := Except.error.inj failed
    obtain ⟨refused, rfl⟩ := operandOf_eq_error found
    exact .refused [operator] rest rfl (by simp [Expectation.after?, joins]) refused
  | case5 size links operator token rest joins operand found many =>
    obtain rfl := Except.error.inj failed
    exact .limited List.mem_cons_self
  | case6 size links operator token rest joins operand found room ih =>
    have passed : Expectation.link.afterAll? [operator, token] = some .link := by
      simp [Expectation.after?, joins, (operandOf_eq_ok_iff.1 found).isOperand]
    exact .append passed (ih failed)
  | case7 => contradiction

/-- Reading a chain fails where an operand is expected or after one. -/
theorem fails_of_readChain (failed : readChain limits stop tokens = .error error) :
    Fails stop .operand tokens error := by
  cases tokens with
  | nil =>
    obtain rfl := Except.error.inj failed
    have passed : Expectation.operand.afterAll? [] = some .operand := rfl
    exact .ended passed rfl
  | cons token rest =>
    rw [readChain, readOperand] at failed
    cases found : operandOf token with
    | error problem =>
      rw [found] at failed
      obtain rfl := Except.error.inj failed
      obtain ⟨refused, rfl⟩ := operandOf_eq_error found
      exact .refused [] rest rfl rfl refused
    | ok operand =>
      rw [found] at failed
      have passed : Expectation.operand.afterAll? [token] = some .link := by
        simp [after?_of_operandOf found]
      exact .append passed (fails_of_readLinks (map_eq_error_iff.1 failed))

/-- Reading a definition after its keyword fails at its name, its assignment or its value. -/
theorem fails_of_readDeclaration (failed : readDeclaration limits stop tokens = .error error) :
    Fails stop .name tokens error := by
  rw [readDeclaration] at failed
  split at failed
  · rename_i problem found
    obtain rfl := Except.error.inj failed
    exact fails_of_readKind (by simp +contextual [Expectation.after?]) rfl rfl (fun _ => rfl) found
  · rename_i name rest found
    obtain ⟨rfl, named⟩ := readKind_eq_ok_iff.1 found
    have passedName : Expectation.name.afterAll? [name] = some .assign := by
      simp [Expectation.after?, named]
    refine .append passedName ?_
    split at failed
    · rename_i problem found
      obtain rfl := Except.error.inj failed
      exact fails_of_readKind (by simp +contextual [Expectation.after?]) rfl rfl (fun _ => rfl)
        found
    · rename_i assign rest found
      obtain ⟨rfl, assigns⟩ := readKind_eq_ok_iff.1 found
      have passedAssign : Expectation.assign.afterAll? [assign] = some .operand := by
        simp [Expectation.after?, assigns]
      exact .append passedAssign (fails_of_readChain (map_eq_error_iff.1 failed))

/-- Reading a statement fails where one may begin or after its first tokens. -/
theorem fails_of_readStatement {token : Token} {rest : List Token}
    (opens : expectation.after? token.kind = Expectation.opening? token.kind)
    (complete : expectation.isComplete = true)
    (failed : readStatement limits stop (token :: rest) = .error error) :
    Fails stop expectation (token :: rest) error := by
  rw [readStatement] at failed
  split at failed
  · rename_i keyword
    have passed : expectation.afterAll? [token] = some .name := by
      rw [Expectation.afterAll?_cons, opens, keyword]
      rfl
    exact .append passed (fails_of_readDeclaration failed)
  · rename_i other
    exact .of_operand opens complete other (fails_of_readChain (map_eq_error_iff.1 failed))

/-- Reading statements to the end fails as one of them does, or because they are too many. -/
theorem fails_of_readStatements {done : Array Statement} {budget : Nat}
    (opens : ∀ token ∈ tokens.head?,
      expectation.after? token.kind = Expectation.opening? token.kind)
    (complete : expectation.isComplete = true)
    (failed : (readStatements limits stop done budget tokens).result = .error error) :
    Fails stop expectation tokens error ∨
      ∃ count, error = .tooManyStatements count limits.statements := by
  fun_induction readStatements limits stop done budget tokens generalizing expectation with
  | case1 => contradiction
  | case2 done token rest =>
    obtain rfl := Except.error.inj failed
    exact .inr ⟨_, rfl⟩
  | case3 done budget token rest problem found =>
    obtain rfl := Except.error.inj failed
    exact .inl (fails_of_readStatement (opens token rfl) complete found)
  | case4 done budget token tokens statement rest found ih =>
    obtain ⟨run, split, spelled, -, stops⟩ := readStatement_eq_ok_iff.1 found
    have passed := Expectation.afterAll?_of_statement spelled complete
    -- The chain of the statement could have gone on, so `link` and not `statement` is expected;
    -- that no operator follows makes the two agree on the next token.
    have later := @ih .link
      (fun token first => Expectation.after?_of_isComplete rfl (stops token first)) rfl failed
    rw [split]
    exact later.imp_left (.append passed)

end Parser

namespace Grammar

variable {before : List Token} {reached : Expectation}

/-- A token of a list cannot stand where it stands, while all before it can. -/
structure FirstWrong (tokens before : List Token) (token : Token) : Prop where
  /-- The token comes after those before it. -/
  split : ∃ after, tokens = before ++ token :: after
  /-- The tokens before it begin a sentence. -/
  viable : IsViable before
  /-- With the token they begin none. -/
  wrong : ¬ IsViable (before ++ [token])

/-- A label names one or several kinds of token, and each of them can stand after tokens. -/
def Names (expected : String) (before : List Token) : Prop :=
  (expected = "identifier" ∧ Admits before .identifier) ∨
    (expected = "'='" ∧ Admits before .assign) ∨
    (expected = "operand" ∧ ∀ kind : Kind, kind.isOperand = true → Admits before kind)

/-- The label of what is expected names what can stand. -/
theorem names_label (passed : Expectation.statement.afterAll? before = some reached) :
    Names reached.label before := by
  have admitted {kind : Kind} (expected : (reached.after? kind).isSome = true) :
      Admits before kind := (admits_iff passed kind).2 expected
  cases reached with
  | name => exact .inl ⟨rfl, admitted rfl⟩
  | assign => exact .inr (.inl ⟨rfl, admitted rfl⟩)
  | statement =>
    refine .inr (.inr ⟨rfl, fun kind proper => admitted ?_⟩)
    simp [Expectation.after?, Expectation.opening?, proper]
  | operand =>
    refine .inr (.inr ⟨rfl, fun kind proper => admitted ?_⟩)
    simp [Expectation.after?, proper]
  | link =>
    refine .inr (.inr ⟨rfl, fun kind proper => admitted ?_⟩)
    have other : kind.isArithmetic = false := by
      revert proper
      cases kind <;> decide
    simp [Expectation.after?, Expectation.opening?, proper, other]

/-- A token that is not expected is the first wrong one. -/
theorem firstWrong_of_refused {tokens after : List Token} {token : Token}
    (split : tokens = before ++ token :: after)
    (passed : Expectation.statement.afterAll? before = some reached)
    (refused : reached.after? token.kind = none) : FirstWrong tokens before token where
  split := ⟨after, split⟩
  viable := isViable_iff.2 ⟨reached, passed⟩
  wrong := by
    rw [isViable_concat_iff passed, refused]
    exact Bool.false_ne_true

/-- What an error says of tokens before a terminator at a place. An error about a token is about
the first wrong one; it is an unsupported token exactly when it is a parenthesis where a number
can stand, and else its label names what can stand there. An error about the end says that the
tokens begin a sentence and are none. -/
def Explains (tokens : List Token) (stop : Span) : ParseError → Prop
  | .unexpectedToken expected found span =>
    ∃ before token, FirstWrong tokens before token ∧ found = token.value ∧ span = token.span ∧
      ¬ ((token.kind = .leftParen ∨ token.kind = .rightParen) ∧ Admits before .number) ∧
      Names expected before
  | .unsupportedToken found span =>
    ∃ before token, FirstWrong tokens before token ∧ found = token.value ∧ span = token.span ∧
      (token.kind = .leftParen ∨ token.kind = .rightParen) ∧ Admits before .number
  | .unexpectedEnd expected span =>
    IsViable tokens ∧ ¬ IsSentence tokens ∧ span = stop ∧ Names expected tokens
  | _ => True

/-- The error about a token that is not expected explains the first wrong token. -/
theorem explains_refusal {tokens : List Token} {stop : Span} {token : Token}
    (wrong : FirstWrong tokens before token)
    (passed : Expectation.statement.afterAll? before = some reached) :
    Explains tokens stop (reached.refusal token) := by
  have named := names_label passed
  have number := admits_iff passed .number
  by_cases paren : token.kind = .leftParen ∨ token.kind = .rightParen
  · cases reached with
    | name | assign =>
      refine ⟨before, token, wrong, rfl, rfl, fun both => ?_, named⟩
      have impossible := number.1 both.2
      contradiction
    | statement | operand | link =>
      simp only [Expectation.refusal, if_pos paren]
      exact ⟨before, token, wrong, rfl, rfl, paren, number.2 rfl⟩
  · have plain : reached.refusal token =
        .unexpectedToken reached.label token.value token.span := by
      cases reached with
      | name | assign => rfl
      | statement | operand | link => exact if_neg paren
    rw [plain]
    exact ⟨before, token, wrong, rfl, rfl, fun both => paren both.1, named⟩

/-- The error about an end where the tokens may not end explains it. -/
theorem explains_end {tokens : List Token} {stop : Span}
    (passed : Expectation.statement.afterAll? tokens = some reached)
    (incomplete : reached.isComplete = false) :
    Explains tokens stop (.unexpectedEnd reached.label stop) := by
  refine ⟨isViable_iff.2 ⟨reached, passed⟩, fun sentence => ?_, rfl, names_label passed⟩
  obtain ⟨other, same, complete⟩ := isSentence_iff.1 sentence
  obtain rfl := Option.some.inj (passed.symm.trans same)
  rw [incomplete] at complete
  contradiction

end Grammar

namespace Parsing

/-- Parsing tokens before their only terminator fails where reading them does, or because there
are too many statements. -/
theorem fails_of_ofTokensWithin {limits : ParseLimits} {body : List Token} {eof : Token}
    (proper : ∀ token ∈ body, token.isEof = false) (ends : eof.isEof = true) {error : ParseError}
    (failed : (ofTokensWithin limits (body ++ [eof])).result = .error error) :
    Parser.Fails eof.span .statement body error ∨
      ∃ count, error = .tooManyStatements count limits.statements := by
  have divided : Parser.splitEof (body ++ [eof]) = .ok (body, eof.span) :=
    Parser.splitEof_eq_ok_iff.2 ⟨eof, rfl, ends, rfl, proper⟩
  rw [ofTokensWithin, divided] at failed
  exact Parser.fails_of_readStatements (fun _ _ => rfl) rfl failed

/-- The error of parsing tokens before their only terminator explains where they stop being right.
A token that it is about is the first one with which they begin no sentence of the grammar, and
an end that it is about comes after tokens that begin a sentence and are none. -/
theorem explains_of_result_error (body : List Token) (eof : Token)
    (proper : ∀ token ∈ body, token.isEof = false) (ends : eof.isEof = true)
    (error : ParseError) (failed : (ofTokens (body ++ [eof])).result = .error error) :
    Grammar.Explains body eof.span error := by
  rcases fails_of_ofTokensWithin proper ends failed with fails | ⟨count, rfl⟩
  · cases fails with
    | refused before after split passed refused =>
      exact Grammar.explains_refusal (Grammar.firstWrong_of_refused split passed refused) passed
    | ended passed incomplete => exact Grammar.explains_end passed incomplete
    | limited member => trivial
  · trivial

/-- A parenthesis after an operator is the first wrong token of this definition, although two
tokens later the definition goes wrong again. -/
theorem explains_of_result_error_parenthesis :
    let place (column : Nat) : Span := ⟨⟨column - 1, 1, column⟩, ⟨column, 1, column + 1⟩⟩
    let body : List Token := [⟨.letWord, "let", place 1⟩, ⟨.identifier, "x", place 5⟩,
      ⟨.assign, "=", place 7⟩, ⟨.number, "4", place 9⟩, ⟨.multiply, "*", place 11⟩,
      ⟨.leftParen, "(", place 13⟩, ⟨.number, "1", place 15⟩, ⟨.assign, "=", place 17⟩]
    let eof := Token.eof (place 18)
    (∀ token ∈ body, token.isEof = false) ∧ eof.isEof = true ∧
      (ofTokens (body ++ [eof])).result = .error (.unsupportedToken "(" (place 13)) ∧
      Grammar.Explains body eof.span (.unsupportedToken "(" (place 13)) := by
  intro place body eof
  have proper : ∀ token ∈ body, token.isEof = false := by decide
  have ends : eof.isEof = true := rfl
  have failed : (ofTokens (body ++ [eof])).result =
      .error (.unsupportedToken "(" (place 13)) := by decide
  exact ⟨proper, ends, failed, explains_of_result_error body eof proper ends _ failed⟩

end Parsing

end LexisFront
