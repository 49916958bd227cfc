import LexisFront.Proofs.Parsing.Acceptance
import LexisFront.Proofs.Pipeline.Stages
import LexisFront.Proofs.Program.WellFormed

/-!
# Writing a program and reading it back

A well-formed program is written as its words with single spaces between them. Every stage then
gives what the program says: the lexer a token for each word, whatever the settings, and the
parser the one program that these tokens spell. The only further condition is that the words,
with the terminator, are no more tokens than a sequence may have; the length of the source needs
none, because so many words of bounded length stay within the range of positions.
-/

namespace LexisFront

namespace FrontRun

/-- A sequence of plain tokens with the words of a well-formed program is parsed to it. -/
theorem result_ofTokens_of_words {program : Program} (wellFormed : program.WellFormed)
    {tokens : TokenSequence} (plain : ∀ token ∈ tokens.body, token.IsPlain)
    (same : tokens.body.map (·.value) = program.words) :
    (Parsing.ofTokens tokens.toList).result = .ok program := by
  have spelled : program.SpelledBy tokens.body :=
    Program.spelledBy_of_forall_wellFormed wellFormed.statements plain same
  apply Parsing.result_ofTokensWithin_eq_ok_iff.2
  exact ⟨tokens.body, tokens.last, rfl, rfl, fun _ => TokenSequence.isEof_of_mem_body,
    wellFormed.few, fun _ => wellFormed.size_le_of_mem_chains, spelled⟩

/-- Running the source of a well-formed program gives the program back under every setting, and
nothing is truncated, when its words and a terminator fit into one sequence. -/
theorem ofSource?_source_eq (settings : LexicalSettings) (program : Program)
    (wellFormed : program.WellFormed)
    (fits : program.words.length ≤ Limits.maxTokenCount - 1) :
    ∃ run result, ofSource? settings program.source = some run ∧ run.result = .ok result ∧
      result.program = program ∧ result.tally.truncatedOperators = 0 := by
  obtain ⟨lexing, tokens, found, lexed, same, plain, whole⟩ :=
    Lexing.exists_tokens_of_words settings (fun _ => wellFormed.isWord_of_mem_words) fits
  obtain ⟨before, ran⟩ := exists_ofSource?_eq found
  have parsed := result_ofTokens_of_words wellFormed plain same
  exact ⟨_, _, ran, result_ofLexing lexed parsed, rfl, whole⟩

/-- A definition by a chain, the null literal and another chain stand next to each other and are
told apart. -/
theorem ofSource?_source_eq_juxtaposed :
    let program : Program := ⟨[
      .define "x" (.chain (.link (.number "12") "+" (.last (.identifier "x")))),
      .operand .null,
      .chain (.link (.identifier "y") "/" (.link (.number "7") "-" (.last .null)))]⟩
    program.source = "let x = 12 + x null y / 7 - null" ∧ program.WellFormed ∧
      program.words.length ≤ Limits.maxTokenCount - 1 ∧
      ∃ run result, ofSource? ⟨true, false, true, true⟩ program.source = some run ∧
        run.result = .ok result ∧ result.program = program ∧
        result.tally.truncatedOperators = 0 := by
  intro program
  have nameX : Text.IsName "x" :=
    ⟨by decide, List.all_eq_true.1 rfl, by decide, by decide, by decide⟩
  have nameY : Text.IsName "y" :=
    ⟨by decide, List.all_eq_true.1 rfl, by decide, by decide, by decide⟩
  have twelve : Text.IsNumeral "12" := ⟨by decide, List.all_eq_true.1 rfl, by decide⟩
  have seven : Text.IsNumeral "7" := ⟨by decide, List.all_eq_true.1 rfl, by decide⟩
  have wellFormed : program.WellFormed := by
    refine ⟨?_, by decide⟩
    intro statement member
    simp only [program, List.mem_cons, List.not_mem_nil, or_false] at member
    rcases member with rfl | rfl | rfl
    · exact .define nameX (.chain (.link (.number twelve) (by decide) (.last (.identifier nameX)))
        (by decide) (by decide))
    · exact .value (.operand .null)
    · exact .value (.chain (.link (.identifier nameY) (by decide)
        (.link (.number seven) (by decide) (.last .null))) (by decide) (by decide))
  have fits : program.words.length ≤ Limits.maxTokenCount - 1 := by decide
  exact ⟨by decide, wellFormed, fits, ofSource?_source_eq _ program wellFormed fits⟩

end FrontRun

end LexisFront
