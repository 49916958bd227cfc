import LexisFront.Proofs.Lexing.Places
import LexisFront.Proofs.Parsing.Refusal
import LexisFront.Proofs.Pipeline.Stages
import LexisFront.Proofs.Source.Marks

/-!
# Places of errors

The span of an error of a run always lies in the source that was run. That of a lexing error is
the span of a fragment. That of a parsing error is the span of a token, which covers the text of
the token, or that of the terminator, which covers nothing and stands at the end. So there is an
excerpt for every error that has a place, and the excerpt marks what the error is about.
-/

namespace LexisFront

variable {settings : LexicalSettings} {source : String}

/-- The span of a beginning of a fragment is a place of the source. -/
theorem Fragment.isPlace_spanOf {fragment : Fragment} {value rest : List Char}
    (member : fragment ∈ ofSource settings.isDelimiter source.toList)
    (opens : fragment.text = value ++ rest) (nonempty : value ≠ []) :
    Source.IsPlace source (fragment.spanOf value) := by
  obtain ⟨after, split⟩ := exists_after_of_mem member
  refine ⟨fragment.before, value, rest ++ after, ?_, rfl, fun empty => absurd empty nonempty⟩
  rw [split, opens]
  simp

namespace Lexing

/-- The span of a lexing error is a place of the source. -/
theorem isPlace_of_error {error : LexicalError}
    (failed : expected settings source.toList = .error error) {span : Span}
    (about : error.span? = some span) : Source.IsPlace source span := by
  rcases exists_judge_of_expected_error failed with ⟨fragment, member, judged⟩ | rfl
  · obtain ⟨inside, nonempty⟩ := Fragment.mem_ofSource_of_mem_visible member
    have place : Source.IsPlace source fragment.span :=
      Fragment.isPlace_spanOf inside (List.append_nil _).symm nonempty
    have same : error.span? = some fragment.span := by
      rcases Fragment.judge_error_cases judged with rfl | rfl | rfl <;> rfl
    obtain rfl := Option.some.inj (same.symm.trans about)
    exact place
  · contradiction

/-- The span of a token, also that of the terminator, is a place of the source. -/
theorem isPlace_of_mem_toList {tokens : TokenSequence}
    (found : expected settings source.toList = .ok tokens.toList) {token : Token}
    (member : token ∈ tokens.toList) : Source.IsPlace source token.span := by
  rcases List.mem_append.1 member with inside | terminator
  · obtain ⟨fragment, visible, judged⟩ := exists_judge_of_mem_body found inside
    obtain ⟨placed, nonempty⟩ := Fragment.mem_ofSource_of_mem_visible visible
    obtain ⟨kind, value, rest, rfl, -, opens, keeps⟩ := Fragment.exists_token_of_judge_ok judged
    exact Fragment.isPlace_spanOf placed opens (keeps nonempty)
  · obtain rfl := List.mem_singleton.1 terminator
    rw [(map_judge_of_expected_ok found).2]
    exact ⟨source.toList, [], [], by simp, by simp [Token.eof, Span.emptyAt], fun _ => rfl⟩

end Lexing

/-- The span of a refused token is the span of its error. -/
theorem Expectation.span?_refusal (expectation : Expectation) (token : Token) :
    (expectation.refusal token).span? = some token.span := by
  unfold refusal
  split
  · rfl
  · rfl
  all_goals split <;> rfl

/-- The span of a parsing error is that of one of the tokens. -/
theorem Parsing.exists_token_of_error {tokens : TokenSequence} {error : ParseError}
    (failed : (ofTokens tokens.toList).result = .error error) {span : Span}
    (about : error.span? = some span) : ∃ token ∈ tokens.toList, token.span = span := by
  have proper : ∀ token ∈ tokens.body, token.isEof = false :=
    fun _ => TokenSequence.isEof_of_mem_body
  rcases fails_of_ofTokensWithin proper rfl failed with fails | ⟨count, rfl⟩
  · cases fails with
    | @refused token reached before after split passed refused =>
      rw [Expectation.span?_refusal] at about
      refine ⟨token, List.mem_append_left _ ?_, Option.some.inj about⟩
      simp [split]
    | ended passed incomplete =>
      exact ⟨tokens.last, List.mem_append_right _ List.mem_cons_self, Option.some.inj about⟩
    | limited member =>
      exact ⟨_, List.mem_append_left _ member, Option.some.inj about⟩
  · contradiction

namespace FrontRun

/-- The span of the error of a run is a place of the source. -/
theorem isPlace_of_error {run : FrontRun} (ran : ofSource? settings source = some run)
    {error : FrontError} (failed : run.result = .error error) {span : Span}
    (about : error.span? = some span) : Source.IsPlace source span := by
  obtain ⟨lexing, before, lexed, rfl⟩ := exists_lexing_of_ofSource? ran
  have found := Lexing.result_eq lexed
  rcases error_cases failed with ⟨lexical, refused, rfl⟩ | ⟨tokens, syntactic, read, refused, rfl⟩
  · rw [refused] at found
    exact Lexing.isPlace_of_error found.symm about
  · rw [read] at found
    obtain ⟨token, member, rfl⟩ := Parsing.exists_token_of_error refused about
    exact Lexing.isPlace_of_mem_toList found.symm member

/-- Running a source of bounded length gives an outcome, and when that is an error with a place,
the excerpt for it marks the text at that place, whatever the message is. -/
theorem excerpt_marks_error (settings : LexicalSettings) (source : String)
    (short : source.length ≤ UInt32.size - 2) :
    ∃ run, ofSource? settings source = some run ∧
      ∀ error span, run.result = .error error → error.span? = some span →
        ∀ message, ∃ line covered width,
          Source.Marks source span message line covered width := by
  obtain ⟨run, ran⟩ := exists_run settings short
  refine ⟨run, ran, fun error span failed about message => ?_⟩
  exact (isPlace_of_error ran failed about).exists_marks message

/-- The second fragment of this source has an accent and goes on below its line. The two of its
characters that stand on the line are marked. -/
theorem excerpt_marks_error_accent :
    "ab é.\nx".length ≤ UInt32.size - 2 ∧
      ∃ run error span, ofSource? ⟨false, true, true, false⟩ "ab é.\nx" = some run ∧
        run.result = .error error ∧ error.span? = some span ∧
        span = ⟨⟨3, 1, 4⟩, ⟨8, 2, 2⟩⟩ ∧
        Source.Marks "ab é.\nx" span "m" "ab é." "é.\nx" 2 := by
  refine ⟨by decide, ?_⟩
  obtain ⟨run, ran, marks⟩ := excerpt_marks_error ⟨false, true, true, false⟩ "ab é.\nx" (by decide)
  have outcome : (ofSource? ⟨false, true, true, false⟩ "ab é.\nx").map (·.result) =
      some (.error (.lexing (.unrecognizedToken "é.\nx" 1 ⟨⟨3, 1, 4⟩, ⟨8, 2, 2⟩⟩))) := rfl
  rw [ran, Option.map_some, Option.some.injEq] at outcome
  obtain ⟨line, covered, width, marked⟩ := marks _ _ outcome rfl "m"
  obtain rfl : "ab é." = line := Option.some.inj marked.line_eq
  obtain rfl : "é.\nx" = covered := Option.some.inj marked.covered_eq
  obtain rfl : width = 2 := (marked.marked_eq (by decide)).1
  exact ⟨run, _, _, ran, outcome, rfl, rfl, marked⟩

end FrontRun

end LexisFront
