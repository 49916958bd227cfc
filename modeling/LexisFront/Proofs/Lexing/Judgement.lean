import LexisFront.Fragment.Contribution
import LexisFront.Proofs.Lexing.Fragment

/-!
# Judging a fragment by itself

`Fragment.judge` says in one place what a fragment is worth: the token that it becomes or the
error that it is, with the rules in the order in which they apply. It is written from the rules
alone and knows neither verdicts nor contributions. The contribution that the lexer computes is
this judgement together with the characters that the token does not hold, as long as the places
in the fragment are in range.
-/

namespace LexisFront

namespace Fragment

/-- The token of a kind whose text begins where the fragment begins. -/
def token (fragment : Fragment) (kind : Kind) (value : List Char) : Token :=
  ⟨kind, String.ofList value, fragment.spanOf value⟩

/-- The glyphs that open an operator, with the kinds of their tokens. -/
def glyphKinds : List (Char × Kind) := [
  ('(', .leftParen), (')', .rightParen), ('=', .assign), ('+', .plus), ('-', .minus),
  ('*', .multiply), ('/', .divide)]

/-- The kind of a fragment of letters. -/
def wordKind (word : List Char) : Kind :=
  if word = "let".toList then .letWord else if word = "null".toList then .null else .identifier

/-- Judges a fragment: by its length, by its first character, then by all its characters. -/
def judge (settings : LexicalSettings) (fragment : Fragment) : Except LexicalError Token :=
  if Limits.maxFragmentLength < fragment.text.length then
    .error (.fragmentTooLong fragment.text.length fragment.index fragment.span)
  else
    match fragment.text.head?.bind (glyphKinds.lookup ·) with
    | some kind =>
      if settings.strictOperators = true ∧ 1 < fragment.text.length then
        .error (.malformedOperator (String.ofList fragment.text) fragment.index fragment.span)
      else
        .ok (fragment.token kind (fragment.text.take 1))
    | none =>
      if fragment.text.all Char.isDigit then
        .ok (fragment.token .number fragment.text)
      else if fragment.text.all Char.isAlpha then
        .ok (fragment.token (wordKind fragment.text) fragment.text)
      else
        .error (.unrecognizedToken (String.ofList fragment.text) fragment.index fragment.span)

/-- The contribution of a fragment: its judgement, and what its token leaves of it. -/
def contribution (settings : LexicalSettings) (fragment : Fragment) : Contribution :=
  match fragment.judge settings with
  | .ok token => .token token (fragment.text.drop token.value.length)
  | .error error => .error error

/-- The text of a token of a fragment has the length of the text it was made from. -/
@[simp]
theorem length_value_token (fragment : Fragment) (kind : Kind) (value : List Char) :
    (fragment.token kind value).value.length = value.length :=
  String.length_ofList

/-- The table of glyphs holds exactly the characters that open an operator. -/
theorem lookup_glyphKinds (c : Char) : glyphKinds.lookup c = Kind.ofGlyph? c := by
  unfold Kind.ofGlyph?
  split
  case h_8 => simp_all [glyphKinds, List.lookup_eq_none_iff]
  all_goals rfl

/-- No glyph opens a terminator. -/
theorem ne_eof_of_lookup_glyphKinds {c : Char} {kind : Kind}
    (found : glyphKinds.lookup c = some kind) : kind ≠ .eof := by
  rw [lookup_glyphKinds] at found
  rintro rfl
  unfold Kind.ofGlyph? at found
  split at found <;> contradiction

/-- The kind of a word is that of the reserved word that it spells, if it spells one. -/
theorem wordKind_eq (word : List Char) : Verdict.wordKind word = wordKind word := by
  have spelled (text : String) : (text == String.ofList word) = decide (word = text.toList) := by
    rw [Bool.eq_iff_iff, beq_iff_eq, decide_eq_true_iff, ← String.toList_inj,
      String.toList_ofList]
    exact eq_comm
  simp only [Verdict.wordKind, wordKind, Keyword.ofSpelling?, Keyword.all, List.find?_cons,
    Keyword.spelling, spelled]
  by_cases isLet : word = "let".toList
  · simp only [isLet, decide_true, ↓reduceIte]
    rfl
  · by_cases isNull : word = "null".toList
    · subst isNull
      rfl
    · simp only [isLet, isNull, decide_false, ↓reduceIte]
      rfl

/-- The places in a fragment are in range: the checked move past its text succeeds. -/
def InRange (fragment : Fragment) : Prop :=
  fragment.span.start.advanceAll? fragment.text = some fragment.span.stop

/-- The place of a glyph in front of a fragment is in range when the fragment is. -/
theorem covering?_glyph {fragment : Fragment} {glyph : Char} {rest : List Char}
    (opens : fragment.text = glyph :: rest) (inRange : fragment.InRange) :
    Span.covering? fragment.span.start [glyph] = some (fragment.spanOf [glyph]) := by
  rw [InRange, opens, ← List.singleton_append] at inRange
  have first := (Position.advanceAll?_of_append inRange).1
  rw [Span.covering?, first, Option.bind_some, Span.between?_afterAll, spanOf,
    Position.afterAll_append]
  rfl

/-- The lexer finds the contribution of a fragment whose places are in range. -/
theorem ofFragment?_eq (settings : LexicalSettings) {fragment : Fragment}
    (inRange : fragment.InRange) :
    Contribution.ofFragment? settings fragment.index fragment.span fragment.text =
      some (fragment.contribution settings) := by
  unfold Contribution.ofFragment? Verdict.ofFragment contribution judge
  by_cases long : Limits.maxFragmentLength < fragment.text.length
  · simp only [if_pos long]
  · simp only [if_neg long]
    cases shape : fragment.text with
    | nil => simp [Verdict.ofText, token, span, shape]
    | cons first rest =>
      simp only [List.head?_cons, Option.bind_some, lookup_glyphKinds]
      cases glyph : Kind.ofGlyph? first with
      | some kind =>
        have strict : (settings.strictOperators && !rest.isEmpty) = true ↔
            settings.strictOperators = true ∧ 1 < (first :: rest).length := by
          cases rest <;> simp
        by_cases malformed : settings.strictOperators = true ∧ 1 < (first :: rest).length
        · simp only [strict.2 malformed, if_pos malformed, ↓reduceIte]
        · simp only [mt strict.1 malformed, if_neg malformed, covering?_glyph shape inRange,
            Option.map_some, Bool.false_eq_true, ↓reduceIte, length_value_token,
            List.take_succ_cons, List.take_zero, List.length_singleton, List.drop_succ_cons,
            List.drop_zero]
          rfl
      | none =>
        simp only [Verdict.ofText, wordKind_eq]
        by_cases digits : (first :: rest).all Char.isDigit = true
        · simp only [digits, ↓reduceIte, length_value_token, List.drop_length]
          simp only [token, span, shape]
        · by_cases letters : (first :: rest).all Char.isAlpha = true
          · simp only [digits, letters, ↓reduceIte, Bool.false_eq_true, length_value_token,
              List.drop_length]
            simp only [token, span, shape]
          · simp only [digits, letters, ↓reduceIte, Bool.false_eq_true]

/-- A fragment that is a token is not too long. -/
theorem length_le_of_judge_ok {settings : LexicalSettings} {fragment : Fragment} {token : Token}
    (judged : fragment.judge settings = .ok token) :
    fragment.text.length ≤ Limits.maxFragmentLength := by
  unfold judge at judged
  split at judged
  · contradiction
  · exact Nat.le_of_not_lt ‹_›

/-- A fragment that is a token is an operator, a number or a word. -/
theorem judge_ok_cases {settings : LexicalSettings} {fragment : Fragment} {token : Token}
    (judged : fragment.judge settings = .ok token) :
    (∃ glyph rest kind, fragment.text = glyph :: rest ∧ glyphKinds.lookup glyph = some kind ∧
        (settings.strictOperators = true → rest = []) ∧ token = fragment.token kind [glyph]) ∨
      (fragment.text.all Char.isDigit = true ∧ token = fragment.token .number fragment.text) ∨
      (fragment.text.all Char.isAlpha = true ∧
        token = fragment.token (wordKind fragment.text) fragment.text) := by
  unfold judge at judged
  split at judged
  · contradiction
  · split at judged
    · rename_i kind opened
      split at judged
      · contradiction
      · rename_i wellFormed
        obtain ⟨glyph, opens, found⟩ := Option.bind_eq_some_iff.1 opened
        obtain ⟨rest, shape⟩ := List.head?_eq_some_iff.1 opens
        refine .inl ⟨glyph, rest, kind, shape, found, fun strict => ?_, ?_⟩
        · rw [shape] at wellFormed
          cases rest with
          | nil => rfl
          | cons c rest => exact absurd ⟨strict, by simp⟩ wellFormed
        · rw [shape] at judged
          exact (Except.ok.inj judged).symm
    · split at judged
      · rename_i digits
        exact .inr (.inl ⟨digits, (Except.ok.inj judged).symm⟩)
      · split at judged
        · rename_i letters
          exact .inr (.inr ⟨letters, (Except.ok.inj judged).symm⟩)
        · contradiction

/-- The token of a fragment holds a beginning of it, which is not empty unless the fragment is,
and is no terminator. -/
theorem exists_token_of_judge_ok {settings : LexicalSettings} {fragment : Fragment}
    {token : Token} (judged : fragment.judge settings = .ok token) :
    ∃ kind value rest, token = fragment.token kind value ∧ kind ≠ .eof ∧
      fragment.text = value ++ rest ∧ (fragment.text ≠ [] → value ≠ []) := by
  rcases judge_ok_cases judged with ⟨glyph, rest, kind, shape, found, -, rfl⟩ | ⟨-, rfl⟩ | ⟨-, rfl⟩
  · exact ⟨kind, [glyph], rest, rfl, ne_eof_of_lookup_glyphKinds found, by simp [shape], by simp⟩
  · exact ⟨.number, fragment.text, [], rfl, by decide, by simp, id⟩
  · refine ⟨wordKind fragment.text, fragment.text, [], rfl, ?_, by simp, id⟩
    unfold wordKind
    split
    · decide
    · split <;> decide

/-- The error of a fragment names its number, its place, and its text or length. -/
theorem judge_error_cases {settings : LexicalSettings} {fragment : Fragment}
    {error : LexicalError} (judged : fragment.judge settings = .error error) :
    error = .fragmentTooLong fragment.text.length fragment.index fragment.span ∨
      error = .malformedOperator (String.ofList fragment.text) fragment.index fragment.span ∨
      error = .unrecognizedToken (String.ofList fragment.text) fragment.index fragment.span := by
  unfold judge at judged
  split at judged
  · exact .inl (Except.error.inj judged).symm
  · split at judged
    · split at judged
      · exact .inr (.inl (Except.error.inj judged).symm)
      · contradiction
    · split at judged
      · contradiction
      · split at judged
        · contradiction
        · exact .inr (.inr (Except.error.inj judged).symm)

end Fragment

end LexisFront
