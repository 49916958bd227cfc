import LexisFront.Proofs.Lexing.Reference
import Mathlib.Data.List.Forall2

/-!
# Runs over fragments with the same texts

Two sources can have fragments with the same texts at different places. What a fragment is worth
depends on its text and on one setting, so two runs over such fragments come to the same, apart
from places and numbers. How far the places of the two sources agree is for the sources to say;
here it is a relation on positions, and the numbers of their fragments are a fixed distance apart.

Tokens correspond one by one, and errors when they are of the same sort and say the same. The
counters of a run hold neither places nor numbers, so those of two such runs are equal.
-/

namespace LexisFront

/-- The ends of two spans correspond. -/
structure Span.Corresponds (places : Position → Position → Prop) (span other : Span) : Prop where
  /-- The first places correspond. -/
  start : places span.start other.start
  /-- The last places correspond. -/
  stop : places span.stop other.stop

/-- Two tokens are the same at corresponding places. -/
structure Token.Corresponds (places : Position → Position → Prop) (token other : Token) :
    Prop where
  /-- The kinds are the same. -/
  kind_eq : other.kind = token.kind
  /-- The texts are the same. -/
  value_eq : other.value = token.value
  /-- The places correspond. -/
  placed : token.span.Corresponds places other.span

/-- Two errors are of the same sort and say the same, at corresponding places, about fragments
whose numbers are `distance` apart. -/
inductive LexicalError.Corresponds (places : Position → Position → Prop) (distance : Nat) :
    LexicalError → LexicalError → Prop
  /-- Both are about a fragment that is no token. -/
  | unrecognizedToken {fragment : String} {index : Nat} {span other : Span}
      (placed : span.Corresponds places other) :
      Corresponds places distance (.unrecognizedToken fragment index span)
        (.unrecognizedToken fragment (index + distance) other)
  /-- Both are about an operator with more characters. -/
  | malformedOperator {fragment : String} {index : Nat} {span other : Span}
      (placed : span.Corresponds places other) :
      Corresponds places distance (.malformedOperator fragment index span)
        (.malformedOperator fragment (index + distance) other)
  /-- Both are about a fragment that is too long. -/
  | fragmentTooLong {length index : Nat} {span other : Span}
      (placed : span.Corresponds places other) :
      Corresponds places distance (.fragmentTooLong length index span)
        (.fragmentTooLong length (index + distance) other)
  /-- Both are about too many tokens. -/
  | tooManyTokens {count : Nat} :
      Corresponds places distance (.tooManyTokens count) (.tooManyTokens count)

/-- Two results are corresponding tokens, one by one, or corresponding errors. -/
inductive Lexing.Corresponds (places : Position → Position → Prop) (distance : Nat) :
    Except LexicalError (List Token) → Except LexicalError (List Token) → Prop
  /-- Both are tokens. -/
  | ok {tokens others : List Token} (each : List.Forall₂ (Token.Corresponds places) tokens others) :
      Corresponds places distance (.ok tokens) (.ok others)
  /-- Both are errors. -/
  | error {error other : LexicalError} (same : error.Corresponds places distance other) :
      Corresponds places distance (.error error) (.error other)

/-- Two fragments have the same text at corresponding places. -/
structure Fragment.Corresponds (places : Position → Position → Prop) (distance : Nat)
    (fragment other : Fragment) : Prop where
  /-- The numbers are a distance apart. -/
  index_eq : other.index = fragment.index + distance
  /-- The texts are the same. -/
  text_eq : other.text = fragment.text
  /-- The places after the same beginning of the two correspond. -/
  placed : ∀ value rest, fragment.text = value ++ rest →
    places (Position.start.afterAll (fragment.before ++ value))
      (Position.start.afterAll (other.before ++ value))

variable {places : Position → Position → Prop} {distance : Nat}

namespace Fragment.Corresponds

variable {fragment other : Fragment}

/-- The spans of the same beginning correspond. -/
theorem spanOf (same : fragment.Corresponds places distance other) {value rest : List Char}
    (opens : fragment.text = value ++ rest) :
    (fragment.spanOf value).Corresponds places (other.spanOf value) := by
  have first := same.placed [] fragment.text rfl
  rw [List.append_nil, List.append_nil] at first
  exact ⟨first, same.placed value rest opens⟩

/-- The spans of the whole fragments correspond. -/
theorem span (same : fragment.Corresponds places distance other) :
    fragment.span.Corresponds places other.span := by
  have whole := same.spanOf (List.append_nil fragment.text).symm
  rw [Fragment.span, Fragment.span, same.text_eq]
  exact whole

/-- The tokens of the same beginning correspond. -/
theorem token (same : fragment.Corresponds places distance other) (kind : Kind)
    {value rest : List Char} (opens : fragment.text = value ++ rest) :
    (fragment.token kind value).Corresponds places (other.token kind value) :=
  ⟨rfl, rfl, same.spanOf opens⟩

/-- Corresponding fragments are judged alike under settings that treat operators alike. -/
theorem judge_cases (same : fragment.Corresponds places distance other)
    {settings others : LexicalSettings}
    (strict : others.strictOperators = settings.strictOperators) :
    (∃ token moved, fragment.judge settings = .ok token ∧ other.judge others = .ok moved ∧
        token.Corresponds places moved) ∨
      ∃ error moved, fragment.judge settings = .error error ∧
        other.judge others = .error moved ∧ error.Corresponds places distance moved := by
  have whole : fragment.text = fragment.text ++ [] := (List.append_nil _).symm
  unfold judge
  rw [same.text_eq, same.index_eq, strict]
  by_cases long : Limits.maxFragmentLength < fragment.text.length
  · rw [if_pos long, if_pos long]
    exact .inr ⟨_, _, rfl, rfl, .fragmentTooLong same.span⟩
  · rw [if_neg long, if_neg long]
    cases fragment.text.head?.bind (glyphKinds.lookup ·) with
    | some kind =>
      by_cases malformed : settings.strictOperators = true ∧ 1 < fragment.text.length
      · simp only [if_pos malformed]
        exact .inr ⟨_, _, rfl, rfl, .malformedOperator same.span⟩
      · simp only [if_neg malformed]
        exact .inl ⟨_, _, rfl, rfl, same.token kind (List.take_append_drop 1 _).symm⟩
    | none =>
      by_cases digits : fragment.text.all Char.isDigit = true
      · simp only [if_pos digits]
        exact .inl ⟨_, _, rfl, rfl, same.token .number whole⟩
      · by_cases letters : fragment.text.all Char.isAlpha = true
        · simp only [if_neg digits, if_pos letters]
          exact .inl ⟨_, _, rfl, rfl, same.token (wordKind fragment.text) whole⟩
        · simp only [if_neg digits, if_neg letters]
          exact .inr ⟨_, _, rfl, rfl, .unrecognizedToken same.span⟩

/-- Of corresponding fragments the same ones are visible. -/
theorem filter_visible {fragments moved : List Fragment}
    (each : List.Forall₂ (Fragment.Corresponds places distance) fragments moved) :
    List.Forall₂ (Fragment.Corresponds places distance)
      (fragments.filter fun fragment => !Text.isBlank fragment.text)
      (moved.filter fun fragment => !Text.isBlank fragment.text) := by
  refine List.rel_filter ?_ each
  intro fragment other same
  simp only [same.text_eq]

end Fragment.Corresponds

/-- Corresponding results still correspond after a token that they begin with. -/
theorem Lexing.Corresponds.cons {result other : Except LexicalError (List Token)}
    (same : Lexing.Corresponds places distance result other) {token moved : Token}
    (first : token.Corresponds places moved) :
    Lexing.Corresponds places distance (result.map (token :: ·)) (other.map (moved :: ·)) := by
  cases same with
  | ok each => exact .ok (.cons first each)
  | error alike => exact .error alike

/-- Corresponding visible fragments give corresponding results. -/
theorem Lexing.collect_corresponds {settings others : LexicalSettings}
    (strict : others.strictOperators = settings.strictOperators) {stop last : Position}
    (ends : places stop last) {visible moved : List Fragment}
    (each : List.Forall₂ (Fragment.Corresponds places distance) visible moved) (limit : Nat) :
    Lexing.Corresponds places distance (collect settings stop limit visible)
      (collect others last limit moved) := by
  induction each generalizing limit with
  | nil =>
    rw [collect_nil, collect_nil]
    exact .ok (.cons ⟨rfl, rfl, ends, ends⟩ .nil)
  | cons same later ih =>
    cases limit with
    | zero =>
      rw [collect_zero, collect_zero]
      exact .error .tooManyTokens
    | succ limit =>
      rcases same.judge_cases strict with ⟨token, other, judged, rejudged, alike⟩ |
        ⟨error, other, judged, rejudged, alike⟩
      · rw [collect_of_judge_ok judged, collect_of_judge_ok rejudged]
        exact (ih limit).cons alike
      · rw [collect_of_judge_error judged, collect_of_judge_error rejudged]
        exact .error alike

namespace Lexer

/-- The counters after corresponding tokens of corresponding fragments are the same. -/
theorem talliedToken_eq {settings others : LexicalSettings}
    (detailed : others.detailedMetrics = settings.detailedMetrics) {fragment other : Fragment}
    (same : fragment.Corresponds places distance other) {token moved : Token}
    (alike : token.Corresponds places moved) (tally : Tally) :
    talliedToken others tally other moved = talliedToken settings tally fragment token := by
  rw [talliedToken, talliedToken, same.text_eq, alike.kind_eq, alike.value_eq, detailed]

/-- Runs over corresponding fragments end with the same counters, if they begin with the same and
with as many tokens. -/
theorem Runs.tally_eq {settings others : LexicalSettings}
    (strict : others.strictOperators = settings.strictOperators)
    (detailed : others.detailedMetrics = settings.detailedMetrics) {stop last : Position}
    {lexer : Lexer} {fragments : List Fragment} {lexing : Lexing}
    (runs : Runs settings stop lexer fragments lexing) {second : Lexer} {moved : List Fragment}
    {outcome : Lexing} (reruns : Runs others last second moved outcome)
    (each : List.Forall₂ (Fragment.Corresponds places distance) fragments moved)
    (tallies : second.tally = lexer.tally) (sizes : second.run.size = lexer.run.size) :
    outcome.tally = lexing.tally := by
  -- The first run decides which way each fragment goes, and the second one has to follow.
  induction runs generalizing second moved with
  | finish =>
    cases each
    obtain rfl := reruns.of_nil
    have total : (second.run.finish (.emptyAt last)).size = second.run.size + 1 := rfl
    simp only [Lexer.finish, total, tallies, sizes]
    rfl
  | @skip lexer cursor fragment rest lexing blank later ih =>
    obtain ⟨other, moved, same, following, rfl⟩ := List.forall₂_cons_left_iff.1 each
    rw [← same.text_eq] at blank
    obtain ⟨cursor, later⟩ := reruns.of_blank blank
    have tallied : second.tally.seeFragment.skipFragment =
        lexer.tally.seeFragment.skipFragment := by rw [tallies]
    exact ih later following tallied sizes
  | @full lexer fragment rest visible many =>
    obtain ⟨other, moved, same, -, rfl⟩ := List.forall₂_cons_left_iff.1 each
    rw [← same.text_eq] at visible
    rw [← sizes] at many
    rw [reruns.of_full visible many]
    simp only [failure, tallies]
  | @refuse lexer fragment rest error visible few judged =>
    obtain ⟨other, moved, same, -, rfl⟩ := List.forall₂_cons_left_iff.1 each
    rcases same.judge_cases strict with ⟨token, -, accepted, -⟩ | ⟨-, error, -, rejudged, -⟩
    · have impossible := judged.symm.trans accepted
      contradiction
    · rw [← same.text_eq] at visible
      rw [← sizes] at few
      rw [reruns.of_judge_error visible few rejudged]
      simp only [failure, tallies, same.text_eq]
  | @accept lexer cursor run fragment rest token lexing visible few judged pushed later ih =>
    obtain ⟨other, moved, same, following, rfl⟩ := List.forall₂_cons_left_iff.1 each
    rcases same.judge_cases strict with ⟨first, again, accepted, rejudged, alike⟩ |
      ⟨error, -, refused, -⟩
    · obtain rfl := Except.ok.inj (accepted.symm.trans judged)
      rw [← same.text_eq] at visible
      rw [← sizes] at few
      obtain ⟨cursor, rerun, repushed, later⟩ := reruns.of_judge_ok visible few rejudged
      have tallied : talliedToken others second.tally other again =
          talliedToken settings lexer.tally fragment first := by
        rw [talliedToken_eq detailed same alike, tallies]
      have grown : rerun.size = run.size := by
        simp only [TokenRun.size, pushed, repushed, Array.size_push] at sizes ⊢
        omega
      exact ih later following tallied grown
    · have impossible := judged.symm.trans refused
      contradiction

end Lexer

end LexisFront
