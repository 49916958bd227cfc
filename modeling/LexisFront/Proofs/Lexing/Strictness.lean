import LexisFront.Proofs.Lexing.Warnings

/-!
# Strict and lenient lexing

A setting decides whether an operator may lose the characters after its glyph. The judgement of a
fragment depends on it only where there are such characters and the fragment is not too long. A
strict run therefore follows a lenient one fragment by fragment until the lenient run drops
characters for the first time; there the strict run ends with an error. If the lenient run never
drops any, the two come to the same, also when both fail.
-/

namespace LexisFront

namespace Fragment

/-- The fragment loses characters where operators may: it has surplus and is not too long. -/
def isTruncatable (fragment : Fragment) : Bool :=
  fragment.hasSurplus && decide (fragment.text.length ≤ Limits.maxFragmentLength)

/-- Of a fragment that is a token the surplus alone decides whether it is truncatable. -/
theorem isTruncatable_eq_hasSurplus {settings : LexicalSettings} {fragment : Fragment}
    {token : Token} (judged : fragment.judge settings = .ok token) :
    fragment.isTruncatable = fragment.hasSurplus := by
  have short := length_le_of_judge_ok judged
  rw [isTruncatable, decide_eq_true short, Bool.and_true]

/-- Strictly a truncatable fragment is an error, and any other is judged as it is leniently. -/
theorem judge_strict (settings : LexicalSettings) (fragment : Fragment) :
    fragment.judge { settings with strictOperators := true } =
      if fragment.isTruncatable then
        .error (.malformedOperator (String.ofList fragment.text) fragment.index fragment.span)
      else
        fragment.judge { settings with strictOperators := false } := by
  unfold judge
  by_cases long : Limits.maxFragmentLength < fragment.text.length
  · have whole : fragment.isTruncatable = false := by
      simp [isTruncatable, long]
    simp [if_pos long, whole]
  · have short : fragment.text.length ≤ Limits.maxFragmentLength := Nat.le_of_not_lt long
    cases opened : fragment.text.head?.bind (glyphKinds.lookup ·) with
    | none =>
      have whole : fragment.isTruncatable = false := by
        simp [isTruncatable, hasSurplus, opened]
      simp [whole]
    | some kind =>
      by_cases more : 1 < fragment.text.length
      · have loses : fragment.isTruncatable = true := by
          simp [isTruncatable, hasSurplus, opened, more, short]
        simp [if_neg long, more, loses]
      · have whole : fragment.isTruncatable = false := by
          simp [isTruncatable, hasSurplus, more]
        simp [if_neg long, more, whole]

/-- A truncatable fragment is a token where operators may lose characters. -/
theorem exists_token_of_isTruncatable (settings : LexicalSettings) {fragment : Fragment}
    (loses : fragment.isTruncatable = true) :
    ∃ token, fragment.judge { settings with strictOperators := false } = .ok token := by
  obtain ⟨surplus, fits⟩ := Bool.and_eq_true_iff.1 loses
  obtain ⟨opened, -⟩ := Bool.and_eq_true_iff.1 surplus
  obtain ⟨kind, found⟩ := Option.isSome_iff_exists.1 opened
  have short : ¬ Limits.maxFragmentLength < fragment.text.length :=
    Nat.not_lt.2 (of_decide_eq_true fits)
  refine ⟨fragment.token kind (fragment.text.take 1), ?_⟩
  simp [judge, if_neg short, found]

end Fragment

/-- A run that has the same tokens is the same run. -/
theorem TokenRun.eq_of_tokens_eq {run other : TokenRun} (same : run.tokens = other.tokens) :
    run = other := by
  cases run
  cases other
  obtain rfl := same
  rfl

/-- How a strict outcome over visible fragments compares with a lenient one that began with a number
of truncated operators. -/
inductive Lexing.Stricter (before : Nat) (visible : List Fragment) (lenient strict : Lexing) : Prop
  /-- The lenient run truncates no operator, and the two come to the same. -/
  | same (untruncated : lenient.tally.truncatedOperators = before)
      (result_eq : strict.result = lenient.result) (tally_eq : strict.tally = lenient.tally)
  /-- The lenient run truncates an operator, and the strict one ends at the first fragment for
  which there is something to lose. -/
  | parted {fragment : Fragment} (truncated : before < lenient.tally.truncatedOperators)
      (first : visible.find? Fragment.isTruncatable = some fragment)
      (refused : strict.result = .error
        (.malformedOperator (String.ofList fragment.text) fragment.index fragment.span))

namespace Lexer

/-- A strict run follows a lenient one until the latter truncates an operator. -/
theorem Runs.stricter {settings : LexicalSettings} {stop : Position} {lexer : Lexer}
    {fragments : List Fragment} {lenient : Lexing}
    (runs : Runs { settings with strictOperators := false } stop lexer fragments lenient)
    {second : Lexer} {strict : Lexing}
    (reruns : Runs { settings with strictOperators := true } stop second fragments strict)
    (sameRun : second.run = lexer.run) (sameTally : second.tally = lexer.tally) :
    Lexing.Stricter lexer.tally.truncatedOperators
      (fragments.filter fun fragment => !Text.isBlank fragment.text) lenient strict := by
  -- The lexers of the two runs stay the same until they part; only a token can make them part.
  induction runs generalizing second with
  | @finish lexer =>
    rw [reruns.of_nil]
    refine .same rfl ?_ ?_
    · simp only [Lexer.finish, sameRun]
    · simp only [Lexer.finish, sameRun, sameTally]
  | @skip lexer cursor fragment rest lexing blank later ih =>
    obtain ⟨cursor, relater⟩ := reruns.of_blank blank
    have tallied : second.tally.seeFragment.skipFragment =
        lexer.tally.seeFragment.skipFragment := by rw [sameTally]
    rw [List.filter_cons_of_neg (by simp [blank])]
    exact ih relater sameRun tallied
  | @full lexer fragment rest visible many =>
    rw [← sameRun] at many
    rw [reruns.of_full visible many, sameRun, sameTally]
    exact .same rfl rfl rfl
  | @refuse lexer fragment rest error visible few judged =>
    have whole : fragment.isTruncatable = false := by
      rw [Bool.eq_false_iff]
      intro loses
      obtain ⟨token, accepted⟩ := Fragment.exists_token_of_isTruncatable settings loses
      have impossible := judged.symm.trans accepted
      contradiction
    have rejudged : fragment.judge { settings with strictOperators := true } = .error error := by
      rw [Fragment.judge_strict, whole]
      exact judged
    rw [← sameRun] at few
    rw [reruns.of_judge_error visible few rejudged, sameTally]
    exact .same (by simp [failure]) rfl rfl
  | @accept lexer cursor run fragment rest token lexing visible few judged pushed later ih =>
    have counted := truncatedOperators_talliedToken judged lexer.tally
    have surplus := Fragment.isTruncatable_eq_hasSurplus judged
    rw [← sameRun] at few
    rw [List.filter_cons_of_pos (by simp [visible])]
    by_cases loses : fragment.isTruncatable = true
    · have dropped : fragment.dropped { settings with strictOperators := false } ≠ [] :=
        (Fragment.dropped_ne_nil_iff judged).2 (surplus ▸ loses)
      have rejudged : fragment.judge { settings with strictOperators := true } = .error
          (.malformedOperator (String.ofList fragment.text) fragment.index fragment.span) := by
        rw [Fragment.judge_strict, if_pos loses]
      have grown := later.truncatedOperators_eq
      rw [if_neg dropped] at counted
      refine .parted ?_ (List.find?_cons_of_pos loses) ?_
      · simp only [counted] at grown
        omega
      · rw [reruns.of_judge_error visible few rejudged]
        rfl
    · have kept : fragment.dropped { settings with strictOperators := false } = [] := by
        by_contra dropped
        exact loses (surplus ▸ (Fragment.dropped_ne_nil_iff judged).1 dropped)
      have rejudged : fragment.judge { settings with strictOperators := true } = .ok token := by
        rw [Fragment.judge_strict, if_neg loses]
        exact judged
      obtain ⟨cursor, rerun, repushed, relater⟩ := reruns.of_judge_ok visible few rejudged
      rw [if_pos kept, Nat.add_zero] at counted
      have sameNext : rerun = run := by
        apply TokenRun.eq_of_tokens_eq
        rw [repushed, pushed, sameRun]
      have tallied : talliedToken { settings with strictOperators := true } second.tally fragment
          token = talliedToken { settings with strictOperators := false } lexer.tally fragment
            token := by
        rw [sameTally]
        rfl
      have followed := ih relater sameNext tallied
      rw [← counted]
      cases followed with
      | same untruncated result_eq tally_eq => exact .same untruncated result_eq tally_eq
      | parted truncated first refused =>
        exact .parted truncated ((List.find?_cons_of_neg loses).trans first) refused

end Lexer

namespace Lexing

/-- Strict lexing of a source of at most `2 ^ 32 - 2` characters differs from lenient lexing only
at truncations. If the lenient run truncates no operator, the two have the same result, be it tokens
or an error, and the same counters. If it does, then whatever it comes to, the strict run is the
error about the first visible fragment that begins with the glyph of an operator and has more
characters, though not too many. -/
theorem strict_eq_lenient_or_malformed (settings : LexicalSettings) (source : String)
    (short : source.length ≤ UInt32.size - 2) :
    ∃ lenient strict,
      ofSource? { settings with strictOperators := false } source = some lenient ∧
      ofSource? { settings with strictOperators := true } source = some strict ∧
      (lenient.tally.truncatedOperators = 0 →
        strict.result = lenient.result ∧ strict.tally = lenient.tally) ∧
      (0 < lenient.tally.truncatedOperators →
        ∃ fragment,
          (Fragment.visible settings source.toList).find? Fragment.isTruncatable = some fragment ∧
          strict.result = .error
            (.malformedOperator (String.ofList fragment.text) fragment.index fragment.span)) := by
  obtain ⟨lenient, lexed⟩ := exists_ofSource?_eq { settings with strictOperators := false } short
  obtain ⟨strict, relexed⟩ := exists_ofSource?_eq { settings with strictOperators := true } short
  obtain ⟨outcome, runs, sameOutcome⟩ := runs_of_ofSource? lexed
  obtain ⟨again, reruns, sameAgain⟩ := runs_of_ofSource? relexed
  have compared : Stricter 0 (Fragment.visible settings source.toList) outcome again :=
    runs.stricter reruns rfl rfl
  refine ⟨lenient, strict, lexed, relexed, ?_⟩
  rw [sameOutcome, sameAgain]
  cases compared with
  | same untruncated result_eq tally_eq =>
    refine ⟨fun _ => ⟨result_eq, tally_eq⟩, fun truncated => ?_⟩
    exact absurd untruncated (Nat.ne_of_gt truncated)
  | parted truncated first refused =>
    refine ⟨fun untruncated => ?_, fun _ => ⟨_, first, refused⟩⟩
    exact absurd untruncated (Nat.ne_of_gt truncated)

/-- The lenient run over this source drops a letter and fails later at a number with a point; the
strict run fails at the operator. -/
theorem strict_eq_lenient_or_malformed_later_error :
    "a +b 3.1".length ≤ UInt32.size - 2 ∧
      ∃ lenient strict, ofSource? ⟨false, true, true, false⟩ "a +b 3.1" = some lenient ∧
        ofSource? ⟨true, true, true, false⟩ "a +b 3.1" = some strict ∧
        lenient.tally.truncatedOperators = 1 ∧
        lenient.result.map TokenSequence.toList =
          .error (.unrecognizedToken "3.1" 2 ⟨⟨5, 1, 6⟩, ⟨8, 1, 9⟩⟩) ∧
        strict.result.map TokenSequence.toList =
          .error (.malformedOperator "+b" 1 ⟨⟨2, 1, 3⟩, ⟨4, 1, 5⟩⟩) := by
  refine ⟨by decide, ?_⟩
  obtain ⟨lenient, strict, lexed, relexed, -, parted⟩ :=
    strict_eq_lenient_or_malformed ⟨false, true, true, false⟩ "a +b 3.1" (by decide)
  have counted : lenient.tally.truncatedOperators = 1 := truncatedOperators_eq_length lexed
  obtain ⟨fragment, first, refused⟩ := parted (by omega)
  obtain rfl : ⟨1, ['a', ' '], ['+', 'b']⟩ = fragment := Option.some.inj first
  refine ⟨lenient, strict, lexed, relexed, counted, result_eq lexed, ?_⟩
  rw [refused]
  rfl

end Lexing

end LexisFront
