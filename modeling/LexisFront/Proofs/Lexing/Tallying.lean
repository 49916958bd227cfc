import LexisFront.Proofs.Lexing.Census
import LexisFront.Proofs.Lexing.Counters
import LexisFront.Proofs.Lexing.KindCounts
import LexisFront.Proofs.Lexing.Warnings

/-!
# Counting along a run

The counters of a run move at several points of a fragment: it is met before anything is known of
it, skipped or measured next, and counted as a token last. A fragment that ends the run is met and
no more, except that its length may be noted. So the counters can be read off the fragments that
were passed and, after a failure, the one that was met.

`Lexer.Tallied` says what a lexer has counted once it has passed some fragments, and each fragment
that is passed keeps it. Every run ends in one of three ways, `Lexer.Ended`, each with a lexer that
has passed the fragments before.
-/

namespace LexisFront

/-- Whether a kind is neither reserved nor that of a terminator. -/
def Kind.isProper (kind : Kind) : Bool :=
  match kind.kindClass with
  | .special | .reserved => false
  | _ => true

namespace Fragment

/-- Whether a fragment is not blank. -/
def isVisible (fragment : Fragment) : Bool :=
  !Text.isBlank fragment.text

/-- The most characters of a fragment; none where there is no fragment. -/
def longest (fragments : List Fragment) : Nat :=
  (fragments.map (·.text.length)).max?.getD 0

/-- A last fragment is the longest one if none before it is longer. -/
theorem longest_concat (fragments : List Fragment) (fragment : Fragment) :
    longest (fragments ++ [fragment]) = max (longest fragments) fragment.text.length := by
  have folded (lengths : List Nat) : lengths.max?.getD 0 = lengths.foldl max 0 := by
    rw [List.foldl_max, Nat.zero_max]
  rw [longest, longest, folded, folded, List.map_append, List.foldl_append]
  rfl

/-- The longest fragment is within a bound if every fragment is. -/
theorem longest_le {fragments : List Fragment} {bound : Nat}
    (within : ∀ fragment ∈ fragments, fragment.text.length ≤ bound) :
    longest fragments ≤ bound := by
  unfold longest
  cases found : (fragments.map (·.text.length)).max? with
  | none => exact Nat.zero_le bound
  | some length =>
    obtain ⟨fragment, member, same⟩ := List.mem_map.1 (List.max?_mem found)
    rw [Option.getD_some, ← same]
    exact within fragment member

variable {settings : LexicalSettings} {fragment : Fragment} {token : Token}

/-- A blank fragment has no surplus, since no glyph is white space. -/
theorem hasSurplus_of_isBlank (blank : Text.isBlank fragment.text = true) :
    fragment.hasSurplus = false := by
  unfold hasSurplus
  cases shape : fragment.text with
  | nil => rfl
  | cons first rest =>
    rw [shape, Text.isBlank, List.all_cons, Bool.and_eq_true] at blank
    have none : glyphKinds.lookup first = none := by
      rw [Option.eq_none_iff_forall_not_mem]
      intro kind found
      have visible := Text.isBlankChar_of_lookup_glyphKinds found
      rw [blank.1] at visible
      contradiction
    simp [none]

/-- Where operators may not lose characters, no fragment that is a token has surplus. -/
theorem hasSurplus_of_strict (strict : settings.strictOperators = true)
    (judged : fragment.judge settings = .ok token) : fragment.hasSurplus = false := by
  rw [Bool.eq_false_iff]
  intro surplus
  obtain ⟨opens, more⟩ := Bool.and_eq_true_iff.1 surplus
  obtain ⟨kind, opened⟩ := Option.isSome_iff_exists.1 opens
  have short : ¬ Limits.maxFragmentLength < fragment.text.length :=
    Nat.not_lt.2 (length_le_of_judge_ok judged)
  simp [judge, short, opened, strict, of_decide_eq_true more] at judged

/-- A fragment that is a token has a proper kind. -/
theorem isProper_of_judge_ok (judged : fragment.judge settings = .ok token) :
    token.kind.isProper = true := by
  rcases judge_ok_cases judged with ⟨glyph, rest, kind, -, found, -, rfl⟩ | ⟨-, rfl⟩ | ⟨-, rfl⟩
  · change kind.isProper = true
    rw [lookup_glyphKinds] at found
    unfold Kind.ofGlyph? at found
    split at found
    case h_8 => contradiction
    all_goals
      obtain rfl := Option.some.inj found
      rfl
  · rfl
  · change (wordKind fragment.text).isProper = true
    unfold wordKind
    split
    · rfl
    · split <;> rfl

end Fragment

namespace Tally

/-- The tokens that were counted by what they are. -/
def classified (tally : Tally) : Nat :=
  tally.keywordTokens + tally.identifierTokens + tally.numberTokens + tally.nullTokens +
    tally.operatorTokens + tally.groupingTokens

/-- Counting a token skips nothing. -/
@[simp]
theorem fragmentsSkipped_countToken (tally : Tally) (detailed : Bool) (kind : Kind) :
    (tally.countToken detailed kind).fragmentsSkipped = tally.fragmentsSkipped := by
  cases detailed <;> cases kind <;> rfl

/-- Counting a token does not set the total. -/
@[simp]
theorem totalTokens_countToken (tally : Tally) (detailed : Bool) (kind : Kind) :
    (tally.countToken detailed kind).totalTokens = tally.totalTokens := by
  cases detailed <;> cases kind <;> rfl

/-- Counting a token measures nothing. -/
@[simp]
theorem maxFragmentLength_countToken (tally : Tally) (detailed : Bool) (kind : Kind) :
    (tally.countToken detailed kind).maxFragmentLength = tally.maxFragmentLength := by
  cases detailed <;> cases kind <;> rfl

/-- Counting a token counts its kind when that is asked for. -/
@[simp]
theorem kindCounts_countToken (tally : Tally) (detailed : Bool) (kind : Kind) :
    (tally.countToken detailed kind).kindCounts =
      if detailed then tally.kindCounts.add kind else tally.kindCounts := by
  cases detailed <;> cases kind <;> rfl

/-- A token of a proper kind is classified once. -/
theorem classified_countToken {kind : Kind} (proper : kind.isProper = true) (tally : Tally)
    (detailed : Bool) : (tally.countToken detailed kind).classified = tally.classified + 1 := by
  have counted : (tally.countToken detailed kind).classified =
      (tally.countKind kind).classified := by
    unfold countToken
    split <;> rfl
  rw [counted]
  unfold countKind
  split
  case h_12 => cases kind <;> contradiction
  all_goals
    simp only [classified]
    omega

end Tally

namespace Lexer

variable {settings : LexicalSettings} {stop : Position}

/-- The counters after the token of a fragment. -/
theorem talliedToken_of_judge_ok {fragment : Fragment} {token : Token}
    (judged : fragment.judge settings = .ok token) (tally : Tally) :
    talliedToken settings tally fragment token =
      { tally with
        fragmentsSeen := tally.fragmentsSeen + 1
        truncatedOperators := tally.truncatedOperators + if fragment.hasSurplus then 1 else 0
        maxFragmentLength := max tally.maxFragmentLength fragment.text.length
        : Tally }.countToken settings.detailedMetrics token.kind := by
  have fits := Fragment.length_le_of_judge_ok judged
  rw [talliedToken, Tally.noteLength, if_pos fits, Tally.noteDropped,
    Fragment.drop_of_judge_ok judged]
  by_cases surplus : fragment.hasSurplus = true
  · have more := List.isEmpty_eq_false_iff.2 (Fragment.drop_one_ne_nil_of_hasSurplus surplus)
    rw [if_pos surplus, if_pos surplus, more]
    rfl
  · rw [if_neg surplus, if_neg surplus]
    rfl

/-- What a lexer has counted that has passed fragments, whose tokens it has. -/
structure Tallied (settings : LexicalSettings) (passed : List Fragment) (lexer : Lexer) :
    Prop where
  /-- The tokens are those of the visible fragments. -/
  judged : (passed.filter Fragment.isVisible).map (Fragment.judge settings) =
    lexer.run.tokens.toList.map .ok
  /-- Every fragment is seen. -/
  seen : lexer.tally.fragmentsSeen = passed.length
  /-- The blank ones are skipped. -/
  skipped : lexer.tally.fragmentsSkipped + lexer.run.size = passed.length
  /-- There is room for the terminator. -/
  room : lexer.run.size + 1 ≤ Limits.maxTokenCount
  /-- The total is not set. -/
  total : lexer.tally.totalTokens = 0
  /-- The counters of tokens are their census. -/
  census : lexer.Counted
  /-- Every token is classified. -/
  classified : lexer.tally.classified = lexer.run.size
  /-- The operators that lost characters are the fragments with surplus. -/
  truncated : lexer.tally.truncatedOperators = passed.countP Fragment.hasSurplus
  /-- The longest fragment is a visible one. -/
  longest : lexer.tally.maxFragmentLength = Fragment.longest (passed.filter Fragment.isVisible)
  /-- The kinds of the tokens are counted when that is asked for. -/
  kinds : settings.detailedMetrics = true →
    lexer.tally.kindCounts.Counts lexer.run.tokens.toList
  /-- No kind is counted otherwise. -/
  noKinds : settings.detailedMetrics = false → lexer.tally.kindCounts = []

/-- A lexer that has passed nothing has counted nothing. -/
theorem Tallied.start : Tallied settings [] {} where
  judged := rfl
  seen := rfl
  skipped := rfl
  room := by decide
  total := rfl
  census := rfl
  classified := rfl
  truncated := rfl
  longest := rfl
  kinds _ := .nil
  noKinds _ := rfl

namespace Tallied

variable {passed : List Fragment} {lexer : Lexer} {fragment : Fragment}

/-- A blank fragment is seen and skipped. -/
theorem skip (tallied : Tallied settings passed lexer) (blank : Text.isBlank fragment.text = true)
    (cursor : Position) :
    Tallied settings (passed ++ [fragment])
      ⟨cursor, lexer.run, lexer.tally.seeFragment.skipFragment, lexer.warnings⟩ := by
  have hidden : (passed ++ [fragment]).filter Fragment.isVisible =
      passed.filter Fragment.isVisible := by
    simp [Fragment.isVisible, blank]
  have whole := Fragment.hasSurplus_of_isBlank blank
  exact { tallied with
    judged := by
      rw [hidden]
      exact tallied.judged
    seen := by simp [tallied.seen]
    skipped := by
      have skipped := tallied.skipped
      simp only [Tally.skipFragment, Tally.seeFragment, List.length_append, List.length_singleton]
      omega
    truncated := by simp [tallied.truncated, whole]
    longest := by
      rw [hidden]
      exact tallied.longest }

/-- A fragment that is a token is seen, measured and counted. -/
theorem accept (tallied : Tallied settings passed lexer)
    (visible : Text.isBlank fragment.text = false)
    (few : lexer.run.size + 2 ≤ Limits.maxTokenCount) {token : Token}
    (judged : fragment.judge settings = .ok token) {run : TokenRun}
    (pushed : run.tokens = lexer.run.tokens.push token) (cursor : Position)
    (warnings : Array Event) :
    Tallied settings (passed ++ [fragment])
      ⟨cursor, run, talliedToken settings lexer.tally fragment token, warnings⟩ := by
  have shown : (passed ++ [fragment]).filter Fragment.isVisible =
      passed.filter Fragment.isVisible ++ [fragment] := by
    simp [Fragment.isVisible, visible]
  have tokens : run.tokens.toList = lexer.run.tokens.toList ++ [token] := by
    rw [pushed, Array.toList_push]
  have size : run.size = lexer.run.size + 1 := by simp [TokenRun.size, pushed]
  have proper := Fragment.isProper_of_judge_ok judged
  have counted := tallied.census.talliedToken pushed settings fragment
  have skipped := tallied.skipped
  have equation := talliedToken_of_judge_ok judged lexer.tally
  exact {
    judged := by
      rw [shown, List.map_append, tallied.judged, tokens, List.map_append, List.map_singleton,
        judged]
      rfl
    seen := by simp [equation, tallied.seen]
    skipped := by
      simp only [equation, Tally.fragmentsSkipped_countToken, size, List.length_append,
        List.length_singleton]
      omega
    room := by
      rw [size]
      exact few
    total := by simp [equation, tallied.total]
    census := counted
    classified := by
      simp only [equation, Tally.classified_countToken proper, size]
      exact congrArg (· + 1) tallied.classified
    truncated := by
      simp [equation, tallied.truncated, List.countP_append, List.countP_cons]
    longest := by
      simp [equation, shown, Fragment.longest_concat, tallied.longest]
    kinds := by
      intro detailed
      simp only [equation, Tally.kindCounts_countToken, detailed, if_true, tokens]
      exact (tallied.kinds detailed).add token
    noKinds := by
      intro silent
      simp [equation, silent, tallied.noKinds silent] }

/-- A fragment that was passed is blank or a token. -/
theorem blank_or_token (tallied : Tallied settings passed lexer) (member : fragment ∈ passed) :
    Text.isBlank fragment.text = true ∨ ∃ token, fragment.judge settings = .ok token := by
  by_cases blank : Text.isBlank fragment.text = true
  · exact .inl blank
  · have shown : fragment ∈ passed.filter Fragment.isVisible :=
      List.mem_filter.2 ⟨member, by simp [Fragment.isVisible, blank]⟩
    have judged : fragment.judge settings ∈ lexer.run.tokens.toList.map .ok :=
      tallied.judged ▸ List.mem_map_of_mem shown
    obtain ⟨token, -, same⟩ := List.mem_map.1 judged
    exact .inr ⟨token, same.symm⟩

/-- There are as many tokens as visible fragments. -/
theorem countP_isVisible (tallied : Tallied settings passed lexer) :
    passed.countP Fragment.isVisible = lexer.run.size := by
  have lengths := congrArg List.length tallied.judged
  rw [List.length_map, List.length_map, ← List.countP_eq_length_filter] at lengths
  exact lengths

/-- The longest fragment is within the limit. -/
theorem longest_le (tallied : Tallied settings passed lexer) :
    lexer.tally.maxFragmentLength ≤ Limits.maxFragmentLength := by
  rw [tallied.longest]
  apply Fragment.longest_le
  intro fragment member
  obtain ⟨earlier, visible⟩ := List.mem_filter.1 member
  rcases tallied.blank_or_token earlier with blank | ⟨token, judged⟩
  · simp [Fragment.isVisible, blank] at visible
  · exact Fragment.length_le_of_judge_ok judged

/-- Where operators may not lose characters, none did. -/
theorem truncated_of_strict (tallied : Tallied settings passed lexer)
    (strict : settings.strictOperators = true) : lexer.tally.truncatedOperators = 0 := by
  rw [tallied.truncated, List.countP_eq_zero]
  intro fragment member
  rw [Bool.not_eq_true]
  rcases tallied.blank_or_token member with blank | ⟨token, judged⟩
  · exact Fragment.hasSurplus_of_isBlank blank
  · exact Fragment.hasSurplus_of_strict strict judged

end Tallied

/-- How a run over fragments up to a last place ends, with what it has counted by then. -/
inductive Ended (settings : LexicalSettings) (stop : Position) (fragments : List Fragment) :
    Lexing → Prop
  /-- All fragments are passed. -/
  | complete {lexer : Lexer} (tallied : Tallied settings fragments lexer) :
      Ended settings stop fragments (finish { lexer with cursor := stop })
  /-- There is no room for a fragment, whatever it is. -/
  | full {lexer : Lexer} {earlier later : List Fragment} {fragment : Fragment}
      (split : fragments = earlier ++ fragment :: later)
      (tallied : Tallied settings earlier lexer) (visible : Text.isBlank fragment.text = false)
      (many : Limits.maxTokenCount < lexer.run.size + 2) :
      Ended settings stop fragments
        (failure lexer.tally.seeFragment lexer.warnings (.tooManyTokens (lexer.run.size + 2))
          fragment.span)
  /-- A fragment is no token. -/
  | refused {lexer : Lexer} {earlier later : List Fragment} {fragment : Fragment}
      {error : LexicalError} (split : fragments = earlier ++ fragment :: later)
      (tallied : Tallied settings earlier lexer) (visible : Text.isBlank fragment.text = false)
      (few : lexer.run.size + 2 ≤ Limits.maxTokenCount)
      (judged : fragment.judge settings = .error error) :
      Ended settings stop fragments
        (failure (lexer.tally.seeFragment.noteLength fragment.text.length) lexer.warnings error
          fragment.span)

/-- A run from a lexer that has passed fragments ends as a run over those and its own. -/
theorem Runs.ended {lexer : Lexer} {fragments : List Fragment} {lexing : Lexing}
    (runs : Runs settings stop lexer fragments lexing) {passed : List Fragment}
    (tallied : Tallied settings passed lexer) :
    Ended settings stop (passed ++ fragments) lexing := by
  -- A fragment that is passed moves from the fragments of the run to those before.
  induction runs generalizing passed with
  | finish =>
    rw [List.append_nil]
    exact .complete tallied
  | @skip lexer cursor fragment rest lexing blank later ih =>
    rw [List.append_cons]
    exact ih (tallied.skip blank cursor)
  | full visible many => exact .full rfl tallied visible many
  | refuse visible few judged => exact .refused rfl tallied visible few judged
  | @accept lexer cursor run fragment rest token lexing visible few judged pushed later ih =>
    rw [List.append_cons]
    exact ih (tallied.accept visible few judged pushed cursor _)

end Lexer

end LexisFront
