import LexisFront.Proofs.Lexing.Tallying

/-!
# What the counters report

A run exposes its counters together with its result, on success and on failure. A caller reads them
beside the tokens or the error, so the two have to agree: `Tally.ReportsTokens` says how with
tokens, and `Tally.ReportsError` how with an error about the fragment that `Fragment.Offends` picks
out. A failed run leaves its counters as they were when it met that fragment, and they are still
exact.
-/

namespace LexisFront

namespace Tally

/-- The counters of a run agree with the tokens of its source. -/
structure ReportsTokens (settings : LexicalSettings) (source : List Char) (tokens : TokenSequence)
    (tally : Tally) : Prop where
  /-- There is one fragment more than delimiters. -/
  seen : tally.fragmentsSeen = source.countP settings.isDelimiter + 1
  /-- Every fragment is skipped or a token, and the terminator is a token without a fragment. -/
  skipped : tally.fragmentsSeen + 1 = tally.fragmentsSkipped + tokens.size
  /-- The total is the number of tokens. -/
  total : tally.totalTokens = tokens.size
  /-- The number of tokens is within the limit. -/
  total_le : tokens.size ≤ Limits.maxTokenCount
  /-- The counters of tokens are their census. -/
  census : tally.census tokens.size = Census.ofTokens tokens.toList
  /-- Every token but the terminator is classified. -/
  classified : tally.classified + 1 = tokens.size
  /-- The longest fragment is that of the visible ones. -/
  longest : tally.maxFragmentLength = Fragment.longest (Fragment.visible settings source)
  /-- The longest fragment is within the limit. -/
  longest_le : tally.maxFragmentLength ≤ Limits.maxFragmentLength
  /-- The kinds of the tokens before the terminator are counted when that is asked for. -/
  kinds : settings.detailedMetrics = true → tally.kindCounts.Counts tokens.body
  /-- No kind is counted otherwise. -/
  noKinds : settings.detailedMetrics = false → tally.kindCounts = []
  /-- The operators that lost characters are the fragments with surplus. -/
  truncated : tally.truncatedOperators =
    (Fragment.ofSource settings.isDelimiter source).countP Fragment.hasSurplus

/-- The counters of a run agree with the error about a fragment after others. -/
structure ReportsError (earlier : List Fragment) (error : LexicalError) (tally : Tally) :
    Prop where
  /-- The fragments are seen up to the one that the error is about. -/
  seen : tally.fragmentsSeen = earlier.length + 1
  /-- The error says how many there are before that one, if it has a number. -/
  index : ∀ index, error.fragmentIndex? = some index → tally.fragmentsSeen = index + 1
  /-- The total is not set. -/
  total : tally.totalTokens = 0
  /-- Every fragment before that one is skipped or classified. -/
  classified : tally.classified + tally.fragmentsSkipped + 1 = tally.fragmentsSeen
  /-- The operators that lost characters are the fragments with surplus before that one. -/
  truncated : tally.truncatedOperators = earlier.countP Fragment.hasSurplus

end Tally

/-- A fragment after others is the one that an error is about: it is the first one that is neither
blank nor a token, or there is no room for it. -/
structure Fragment.Offends (settings : LexicalSettings) (earlier : List Fragment)
    (fragment : Fragment) (error : LexicalError) : Prop where
  /-- The fragments before are blank or tokens. -/
  passed : ∀ other ∈ earlier, Text.isBlank other.text = true ∨
    ∃ token, other.judge settings = .ok token
  /-- The fragment is not blank. -/
  visible : Text.isBlank fragment.text = false
  /-- The fragment is no token, or its token would be one too many beside the terminator. -/
  cause : earlier.countP isVisible + 2 ≤ Limits.maxTokenCount ∧
      fragment.judge settings = .error error ∨
    earlier.countP isVisible + 1 = Limits.maxTokenCount ∧
      error = .tooManyTokens (Limits.maxTokenCount + 1)

namespace Lexer

namespace Tallied

variable {settings : LexicalSettings} {lexer : Lexer}

/-- A lexer that has passed every fragment of a source reports its tokens once the total is set. -/
theorem reportsTokens {source : List Char}
    (tallied : Tallied settings (Fragment.ofSource settings.isDelimiter source) lexer)
    (eofSpan : Span) :
    Tally.ReportsTokens settings source (lexer.run.finish eofSpan)
      { lexer.tally with totalTokens := (lexer.run.finish eofSpan).size } := by
  have seen := tallied.seen
  have skipped := tallied.skipped
  have fragments := Fragment.length_ofSource settings.isDelimiter source
  have census : (lexer.tally.census lexer.run.size).add .eof =
      Census.ofTokens (lexer.run.finish eofSpan).toList := by
    rw [tallied.census, TokenSequence.toList, Census.ofTokens_concat]
    rfl
  exact {
    seen := seen.trans fragments
    skipped := by
      change lexer.tally.fragmentsSeen + 1 = lexer.tally.fragmentsSkipped + (lexer.run.size + 1)
      omega
    total := rfl
    total_le := tallied.room
    census := census
    classified := congrArg (· + 1) tallied.classified
    longest := tallied.longest
    longest_le := tallied.longest_le
    kinds := tallied.kinds
    noKinds := tallied.noKinds
    truncated := tallied.truncated }

/-- A lexer that has passed fragments and meets the next one reports an error about that one. -/
theorem reportsError {earlier : List Fragment} (tallied : Tallied settings earlier lexer)
    {error : LexicalError}
    (named : ∀ index, error.fragmentIndex? = some index → index = earlier.length) :
    Tally.ReportsError earlier error lexer.tally.seeFragment := by
  have seen : lexer.tally.seeFragment.fragmentsSeen = earlier.length + 1 :=
    congrArg (· + 1) tallied.seen
  have skipped := tallied.skipped
  have classified := tallied.classified
  exact {
    seen := seen
    index := fun index found => by rw [seen, named index found]
    total := tallied.total
    classified := by
      rw [seen]
      change lexer.tally.classified + lexer.tally.fragmentsSkipped + 1 = earlier.length + 1
      omega
    truncated := tallied.truncated }

end Tallied

end Lexer

/-- The length of a fragment is not part of what is reported of an error. -/
theorem Tally.ReportsError.noteLength {earlier : List Fragment} {error : LexicalError}
    {tally : Tally} (reports : tally.ReportsError earlier error) (length : Nat) :
    (tally.noteLength length).ReportsError earlier error := by
  unfold Tally.noteLength
  split
  · exact { reports with }
  · exact reports

namespace Lexing

variable {settings : LexicalSettings} {source : List Char} {stop : Position}

/-- What the counters of an outcome say of its result. -/
def Reports (settings : LexicalSettings) (source : List Char) (lexing : Lexing) : Prop :=
  match lexing.result with
  | .ok tokens => lexing.tally.ReportsTokens settings source tokens
  | .error error => ∃ earlier fragment later,
      Fragment.ofSource settings.isDelimiter source = earlier ++ fragment :: later ∧
      Fragment.Offends settings earlier fragment error ∧ lexing.tally.ReportsError earlier error

/-- However a run over the fragments of a source ends, its counters report its result. -/
theorem reports_of_ended {lexing : Lexing}
    (ended : Lexer.Ended settings stop (Fragment.ofSource settings.isDelimiter source) lexing) :
    Reports settings source lexing := by
  cases ended with
  | complete tallied => exact tallied.reportsTokens (.emptyAt stop)
  | @full lexer earlier later fragment split tallied visible many =>
    have room := tallied.room
    have count : lexer.run.size + 1 = Limits.maxTokenCount := by omega
    have unnamed : LexicalError.fragmentIndex? (.tooManyTokens (lexer.run.size + 2)) = none := rfl
    refine ⟨earlier, fragment, later, split, ⟨fun _ => tallied.blank_or_token, visible, .inr ?_⟩,
      tallied.reportsError (by simp [unnamed])⟩
    rw [tallied.countP_isVisible]
    exact ⟨count, by rw [← count]⟩
  | @refused lexer earlier later fragment error split tallied visible few judged =>
    have named : error.fragmentIndex? = some earlier.length := by
      rw [← Fragment.index_eq_length split]
      rcases Fragment.judge_error_cases judged with rfl | rfl | rfl <;> rfl
    have reported := tallied.reportsError fun index found =>
      Option.some.inj (found.symm.trans named)
    refine ⟨earlier, fragment, later, split, ⟨fun _ => tallied.blank_or_token, visible, .inl ?_⟩,
      reported.noteLength fragment.text.length⟩
    rw [tallied.countP_isVisible]
    exact ⟨few, judged⟩

/-- However a run ends, no operator lost characters where none may. -/
theorem truncatedOperators_of_strict {fragments : List Fragment} {lexing : Lexing}
    (ended : Lexer.Ended settings stop fragments lexing)
    (strict : settings.strictOperators = true) : lexing.tally.truncatedOperators = 0 := by
  cases ended with
  | complete tallied => exact tallied.truncated_of_strict strict
  | full split tallied visible many => exact tallied.truncated_of_strict strict
  | refused split tallied visible few judged =>
    have kept := tallied.truncated_of_strict strict
    simp [Lexer.failure, kept]

/-- Lexing a source of at most `2 ^ 32 - 2` characters has an outcome, and whenever lexing has one
its counters agree with its result, under all settings. With tokens they tell the fragments, the
blank ones, the tokens by class and by kind, and the longest fragment. With an error they tell the
fragments up to the one that the error is about, what came of those before, and no total. Either way
they tell of how many fragments characters were dropped, which are none where operators are
strict. -/
theorem tally_reports_result (settings : LexicalSettings) (source : String) :
    (source.length ≤ UInt32.size - 2 → ∃ lexing, ofSource? settings source = some lexing) ∧
      ∀ lexing, ofSource? settings source = some lexing →
        Reports settings source.toList lexing ∧
          (settings.strictOperators = true → lexing.tally.truncatedOperators = 0) := by
  refine ⟨exists_ofSource?_eq settings, ?_⟩
  intro lexing lexed
  obtain ⟨outcome, runs, rfl⟩ := runs_of_ofSource? lexed
  have ended := runs.ended .start
  rw [List.nil_append] at ended
  have reports := reports_of_ended ended
  have strictly := truncatedOperators_of_strict ended
  exact ⟨reports, strictly⟩

/-- Both sources begin alike. The first is three tokens and the terminator, of which two have lost
a letter; the second ends at its fourth fragment, and the tokens before it stay counted. -/
theorem tally_reports_result_both_exits :
    (∃ lexing, ofSource? ⟨false, true, true, false⟩ "a  +b (c" = some lexing ∧
        Reports ⟨false, true, true, false⟩ "a  +b (c".toList lexing ∧
        lexing.tally = {
          fragmentsSeen := 4, fragmentsSkipped := 1, totalTokens := 4, identifierTokens := 1
          operatorTokens := 1, groupingTokens := 1, truncatedOperators := 2, maxFragmentLength := 2
          kindCounts := [(.identifier, 1), (.leftParen, 1), (.plus, 1)] }) ∧
      ∃ lexing, ofSource? ⟨false, true, true, false⟩ "a  +b 3.1" = some lexing ∧
        Reports ⟨false, true, true, false⟩ "a  +b 3.1".toList lexing ∧
        lexing.tally = {
          fragmentsSeen := 4, fragmentsSkipped := 1, identifierTokens := 1, operatorTokens := 1
          truncatedOperators := 1, maxFragmentLength := 3
          kindCounts := [(.identifier, 1), (.plus, 1)] } := by
  have tallied {source : String} {lexing : Lexing} {tally : Tally}
      (lexed : ofSource? ⟨false, true, true, false⟩ source = some lexing)
      (counted : (ofSource? ⟨false, true, true, false⟩ source).map (·.tally) = some tally) :
      lexing.tally = tally := by
    rw [lexed] at counted
    exact Option.some.inj counted
  obtain ⟨succeeds, success⟩ := tally_reports_result ⟨false, true, true, false⟩ "a  +b (c"
  obtain ⟨fails, failure⟩ := tally_reports_result ⟨false, true, true, false⟩ "a  +b 3.1"
  obtain ⟨first, lexed⟩ := succeeds (by decide)
  obtain ⟨second, refused⟩ := fails (by decide)
  exact ⟨⟨first, lexed, (success first lexed).1, tallied lexed (by decide)⟩,
    ⟨second, refused, (failure second refused).1, tallied refused (by decide)⟩⟩

end Lexing

end LexisFront
