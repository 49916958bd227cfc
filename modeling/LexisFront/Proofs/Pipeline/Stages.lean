import LexisFront.Pipeline
import LexisFront.Proofs.Lexing.Run

/-!
# The stages of a run

A run of a source is the outcome of lexing it, followed by parsing when there are tokens. Which of
the two stages decides the result is told apart here once, for statements about programs and for
statements about errors.
-/

namespace LexisFront.FrontRun

variable {settings : LexicalSettings} {source : String} {lexing : Lexing}

/-- Running a source goes on from the outcome of lexing it. -/
theorem exists_ofSource?_eq (lexed : Lexing.ofSource? settings source = some lexing) :
    ∃ before, ofSource? settings source = some (ofLexing "<source>" none before lexing) := by
  rw [ofSource?, lexed]
  exact ⟨_, rfl⟩

/-- Whatever running a source comes to goes on from the outcome of lexing it. -/
theorem exists_lexing_of_ofSource? {run : FrontRun}
    (ran : ofSource? settings source = some run) :
    ∃ lexing before, Lexing.ofSource? settings source = some lexing ∧
      run = ofLexing "<source>" none before lexing := by
  obtain ⟨lexing, lexed, rfl⟩ := Option.map_eq_some_iff.1 ran
  exact ⟨lexing, _, lexed, rfl⟩

/-- A source of bounded length has a run. -/
theorem exists_run (settings : LexicalSettings) (short : source.length ≤ UInt32.size - 2) :
    ∃ run, ofSource? settings source = some run := by
  obtain ⟨lexing, lexed⟩ := Lexing.exists_ofSource?_eq settings short
  obtain ⟨before, ran⟩ := exists_ofSource?_eq lexed
  exact ⟨_, ran⟩

variable {name : String} {file : Option FileInfo} {before : List Event}

/-- Tokens that are a program make a run succeed with that program. -/
theorem result_ofLexing {tokens : TokenSequence} {program : Program}
    (lexed : lexing.result = .ok tokens)
    (parsed : (Parsing.ofTokens tokens.toList).result = .ok program) :
    (ofLexing name file before lexing).result = .ok ⟨tokens, program, file, lexing.tally⟩ := by
  simp only [ofLexing, lexed, parsed]

/-- A run fails in one of its two stages, or both of them succeed. -/
theorem result_cases (name : String) (file : Option FileInfo) (before : List Event)
    (lexing : Lexing) :
    (∃ error, lexing.result = .error error ∧
        (ofLexing name file before lexing).result = .error (.lexing error)) ∨
      ∃ tokens, lexing.result = .ok tokens ∧
        ((∃ error, (Parsing.ofTokens tokens.toList).result = .error error ∧
            (ofLexing name file before lexing).result = .error (.parsing error)) ∨
          ∃ program, (Parsing.ofTokens tokens.toList).result = .ok program ∧
            (ofLexing name file before lexing).result =
              .ok ⟨tokens, program, file, lexing.tally⟩) := by
  cases lexed : lexing.result with
  | error error => exact .inl ⟨error, rfl, by simp only [ofLexing, lexed]⟩
  | ok tokens =>
    refine .inr ⟨tokens, rfl, ?_⟩
    cases parsed : (Parsing.ofTokens tokens.toList).result with
    | error error => exact .inl ⟨error, rfl, by simp only [ofLexing, lexed, parsed]⟩
    | ok program => exact .inr ⟨program, rfl, result_ofLexing lexed parsed⟩

/-- A run fails as its lexing or as its parsing does. -/
theorem error_cases {error : FrontError}
    (failed : (ofLexing name file before lexing).result = .error error) :
    (∃ lexical, lexing.result = .error lexical ∧ error = .lexing lexical) ∨
      ∃ tokens syntactic, lexing.result = .ok tokens ∧
        (Parsing.ofTokens tokens.toList).result = .error syntactic ∧
        error = .parsing syntactic := by
  rcases result_cases name file before lexing with ⟨lexical, lexed, same⟩ |
    ⟨tokens, lexed, ⟨syntactic, parsed, same⟩ | ⟨program, parsed, same⟩⟩
  · exact .inl ⟨lexical, lexed, Except.error.inj (failed.symm.trans same)⟩
  · exact .inr ⟨tokens, syntactic, lexed, parsed, Except.error.inj (failed.symm.trans same)⟩
  · have impossible := failed.symm.trans same
    contradiction

/-- A run fails in lexing exactly when its lexing fails, with the same error. -/
theorem result_eq_lexing_iff {error : LexicalError} :
    (ofLexing name file before lexing).result = .error (.lexing error) ↔
      lexing.result = .error error := by
  rcases result_cases name file before lexing with ⟨lexical, lexed, same⟩ |
    ⟨tokens, lexed, ⟨syntactic, parsed, same⟩ | ⟨program, parsed, same⟩⟩
  all_goals
    rw [same, lexed]
    simp

/-- A run succeeds with the program of the tokens that its lexing gave. -/
theorem exists_tokens_of_ok {result : FrontResult}
    (succeeded : (ofLexing name file before lexing).result = .ok result) :
    lexing.result = .ok result.tokens ∧
      (Parsing.ofTokens result.tokens.toList).result = .ok result.program := by
  rcases result_cases name file before lexing with ⟨lexical, lexed, same⟩ |
    ⟨tokens, lexed, ⟨syntactic, parsed, same⟩ | ⟨program, parsed, same⟩⟩
  · have impossible := succeeded.symm.trans same
    contradiction
  · have impossible := succeeded.symm.trans same
    contradiction
  · obtain rfl := Except.ok.inj (succeeded.symm.trans same)
    exact ⟨lexed, parsed⟩

/-- A run that succeeds shows the counters of its lexing. -/
theorem tally_of_ok {result : FrontResult}
    (succeeded : (ofLexing name file before lexing).result = .ok result) :
    result.tally = lexing.tally := by
  obtain ⟨lexed, parsed⟩ := exists_tokens_of_ok succeeded
  have same := (@result_ofLexing lexing name file before _ _ lexed parsed).symm.trans succeeded
  exact congrArg FrontResult.tally (Except.ok.inj same).symm

end LexisFront.FrontRun
