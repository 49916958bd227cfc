import LexisFront.Proofs.Lexing.FinerCut
import LexisFront.Proofs.Lexing.Gaps
import LexisFront.Proofs.Lexing.TallyReport
import LexisFront.Proofs.Parsing.Acceptance
import LexisFront.Source.File

/-!
# Sources without content

A file counts as empty when nothing is left of its text without the white space at its two ends. The
lexer never looks at the text as a whole: it cuts at its delimiters and skips the pieces that are
white space. The two agree on which sources have no content, under all settings, because every
delimiter is white space itself. A source that is white space has blank pieces only, and a source
whose pieces are all blank is these pieces and the delimiters between them. A piece that is not
blank is a token or an error, so it never goes unnoticed.
-/

namespace LexisFront

/-- Trimming a text leaves nothing exactly when the text is blank. -/
theorem Text.trim_eq_nil_iff (text : List Char) : trim text = [] ↔ isBlank text = true := by
  rw [trim, List.reverse_eq_nil_iff, List.dropWhile_eq_nil_iff, isBlank, List.all_eq_true]
  constructor
  · intro rest c member
    rw [← List.takeWhile_append_dropWhile (p := isBlankChar) (l := text)] at member
    rcases List.mem_append.1 member with front | behind
    · exact List.mem_takeWhile_imp front
    · exact rest c (List.mem_reverse.2 behind)
  · intro blank c member
    have inside := (List.dropWhile_suffix isBlankChar).subset (List.mem_reverse.1 member)
    exact blank c inside

/-- A source has no visible fragments exactly when it is blank. -/
theorem Fragment.visible_eq_nil_iff (settings : LexicalSettings) (source : List Char) :
    visible settings source = [] ↔ Text.isBlank source = true := by
  constructor
  · intro none
    have spread := spread_visible settings source
    rw [none] at spread
    cases spread with
    | blank blank => exact blank
  · intro blank
    exact visible_eq_nil_of_isBlank settings blank

/-- A sequence without a token before the terminator is the terminator alone. -/
theorem TokenSequence.toList_eq_singleton_iff (tokens : TokenSequence) :
    tokens.toList = [tokens.last] ↔ tokens.body = [] := by
  rw [toList, List.append_left_eq_self]

namespace Lexing

variable {settings : LexicalSettings} {source : String} {lexing : Lexing}

/-- Lexing gives the terminator alone exactly for a source that is blank. -/
theorem exists_body_eq_nil_iff (lexed : ofSource? settings source = some lexing) :
    (∃ tokens, lexing.result = .ok tokens ∧ tokens.body = []) ↔
      Text.isBlank source.toList = true := by
  have found := result_eq lexed
  rw [← Fragment.visible_eq_nil_iff settings]
  constructor
  · rintro ⟨tokens, succeeded, empty⟩
    rw [succeeded] at found
    have judged := (map_judge_of_expected_ok found.symm).1
    rw [empty] at judged
    exact List.map_eq_nil_iff.1 judged
  · intro none
    rw [expected, none, collect_nil] at found
    cases succeeded : lexing.result with
    | error error =>
      rw [succeeded] at found
      contradiction
    | ok tokens =>
      rw [succeeded] at found
      have whole : tokens.body ++ [tokens.last] = [_] := Except.ok.inj found
      refine ⟨tokens, rfl, ?_⟩
      have length := congrArg List.length whole
      rw [List.length_append, List.length_singleton, List.length_singleton] at length
      exact List.length_eq_zero_iff.1 (by omega)

/-- Where lexing gives the terminator alone, every fragment was skipped. -/
theorem fragmentsSkipped_eq_of_body_eq_nil (lexed : ofSource? settings source = some lexing)
    {tokens : TokenSequence} (succeeded : lexing.result = .ok tokens) (empty : tokens.body = []) :
    lexing.tally.fragmentsSkipped = lexing.tally.fragmentsSeen := by
  obtain ⟨outcome, runs, rfl⟩ := runs_of_ofSource? lexed
  have reports : Reports settings source.toList outcome := reports_of_ended (runs.ended .start)
  have outcomeSucceeded : outcome.result = .ok tokens := succeeded
  have tallied : outcome.tally.ReportsTokens settings source.toList tokens := by
    simp only [Reports, outcomeSucceeded] at reports
    exact reports
  have size : tokens.size = 1 := by
    rw [← tokens.length_toList, TokenSequence.toList, empty]
    rfl
  have skipped := tallied.skipped
  rw [size] at skipped
  show outcome.tally.fragmentsSkipped = outcome.tally.fragmentsSeen
  omega

end Lexing

/-- The terminator alone is the program without statements. -/
theorem Parsing.result_ofTokens_terminator (span : Span) :
    (ofTokens [Token.eof span]).result = .ok ⟨[]⟩ := rfl

namespace Lexing

/-- A file and the lexer agree on which sources have no content. For a source of at most
`2 ^ 32 - 2` characters, under all settings, trimming leaves nothing exactly when lexing gives the
terminator alone. Every fragment is skipped then, and parsing gives the program without
statements. -/
theorem isBlank_iff_terminator_alone (settings : LexicalSettings) (file : SourceFile)
    (short : file.source.length ≤ UInt32.size - 2) :
    ∃ lexing, ofSource? settings file.source = some lexing ∧
      (file.isBlank = true ↔ Text.trim file.source.toList = []) ∧
      (file.isBlank = true ↔
        ∃ tokens, lexing.result = .ok tokens ∧ tokens.toList = [tokens.last]) ∧
      (file.isBlank = true →
        lexing.tally.fragmentsSkipped = lexing.tally.fragmentsSeen ∧
        ∃ tokens, lexing.result = .ok tokens ∧
          (Parsing.ofTokens tokens.toList).result = .ok ⟨[]⟩) := by
  obtain ⟨lexing, lexed⟩ := exists_ofSource?_eq settings short
  have trimmed := Text.trim_eq_nil_iff file.source.toList
  have alone := exists_body_eq_nil_iff lexed
  refine ⟨lexing, lexed, trimmed.symm, ?_, ?_⟩
  · simp only [TokenSequence.toList_eq_singleton_iff]
    exact alone.symm
  · intro blank
    obtain ⟨tokens, succeeded, empty⟩ := alone.2 blank
    have whole : tokens.toList = [tokens.last] := tokens.toList_eq_singleton_iff.2 empty
    refine ⟨fragmentsSkipped_eq_of_body_eq_nil lexed succeeded empty, tokens, succeeded, ?_⟩
    rw [whole]
    exact Parsing.result_ofTokens_terminator tokens.eofSpan

/-- White space of several kinds is no content, whether or not lines are split. The joiner of width
zero looks like nothing and is content, which lexing refuses. -/
theorem isBlank_iff_terminator_alone_wide_space :
    let blank : SourceFile := ⟨" \t\u3000\n\u0085\r ", ⟨"/a.lx", 10, some "lx", 2⟩⟩
    let joiner : SourceFile := ⟨" \u200D ", ⟨"/b.lx", 5, some "lx", 1⟩⟩
    blank.source.length ≤ UInt32.size - 2 ∧ blank.isBlank = true ∧
      (∀ split, ∃ lexing, ofSource? ⟨true, false, true, split⟩ blank.source = some lexing ∧
        lexing.tally.fragmentsSkipped = lexing.tally.fragmentsSeen ∧
        ∃ tokens, lexing.result = .ok tokens ∧ tokens.toList = [tokens.last]) ∧
      joiner.isBlank = false ∧
      ∃ lexing, ofSource? ⟨true, false, true, false⟩ joiner.source = some lexing ∧
        ¬ ∃ tokens, lexing.result = .ok tokens ∧ tokens.toList = [tokens.last] := by
  intro blank joiner
  have short : blank.source.length ≤ UInt32.size - 2 := by decide
  have isBlank : blank.isBlank = true := by decide
  have content : joiner.isBlank = false := by decide
  refine ⟨short, isBlank, ?_, content, ?_⟩
  · intro split
    obtain ⟨lexing, lexed, -, alone, skipped⟩ :=
      isBlank_iff_terminator_alone ⟨true, false, true, split⟩ blank short
    exact ⟨lexing, lexed, (skipped isBlank).1, alone.1 isBlank⟩
  · obtain ⟨lexing, lexed, -, alone, -⟩ :=
      isBlank_iff_terminator_alone ⟨true, false, true, false⟩ joiner (by decide)
    refine ⟨lexing, lexed, ?_⟩
    rw [← alone, content]
    decide

end Lexing

end LexisFront
