import LexisFront.Proofs.Lexing.FinerCut
import LexisFront.Proofs.Program.Produced
import Mathlib.Data.List.Chain

/-!
# Sources with single spaces

Whatever stood around a token in its source, its text alone is a word again: a token that lost
characters is left with its glyph, and all other tokens are whole fragments. So the texts of the
tokens of any source, written with single spaces between them, are lexed to the same tokens under
every setting, strict or not, and nothing is truncated. Such a source has one line, its tokens are
one byte apart, and writing them out again changes nothing: it is a normal form of every source
with these tokens.
-/

namespace LexisFront

/-- The texts of the tokens with single spaces between them. -/
def TokenSequence.spelling (tokens : TokenSequence) : String :=
  " ".intercalate (tokens.body.map (·.value))

namespace Text

/-- A character of joined stretches is the one that joins them or stands in one of them. -/
theorem eq_or_mem_of_mem_intercalate {joint c : Char} {words : List (List Char)}
    (member : c ∈ [joint].intercalate words) : c = joint ∨ ∃ word ∈ words, c ∈ word := by
  induction words with
  | nil => simp at member
  | cons word rest ih =>
    cases rest with
    | nil =>
      rw [List.intercalate_singleton] at member
      exact .inr ⟨word, List.mem_cons_self, member⟩
    | cons second rest =>
      rw [List.intercalate_cons_cons, List.append_assoc] at member
      rcases List.mem_append.1 member with first | later
      · exact .inr ⟨word, List.mem_cons_self, first⟩
      · rcases List.mem_cons.1 later with same | others
        · exact .inl same
        · rcases ih others with same | ⟨other, inside, found⟩
          · exact .inl same
          · exact .inr ⟨other, List.mem_cons_of_mem _ inside, found⟩

/-- Words with single spaces between them stand on one line. -/
theorem newline_notMem_intercalate {words : List (List Char)}
    (each : ∀ word ∈ words, IsWord word) : '\n' ∉ [' '].intercalate words := by
  intro member
  rcases eq_or_mem_of_mem_intercalate member with space | ⟨word, inside, found⟩
  · contradiction
  · have visible := (each word inside).isBlankChar_eq_false found
    contradiction

end Text

/-- The text of a token that comes from a fragment is a word. -/
theorem Kind.HasText.isWord {kind : Kind} {text : String} (proper : kind.HasText text) :
    Text.IsWord text.toList := by
  have glyph {c : Char} {kind : Kind} (found : Fragment.glyphKinds.lookup c = some kind) :
      Text.IsWord [c] :=
    ⟨List.cons_ne_nil _ _, by simp [Limits.maxFragmentLength], .inl ⟨c, kind, rfl, found⟩⟩
  cases kind with
  | number => exact Text.IsNumeral.isWord proper
  | identifier => exact Text.IsName.isWord proper
  | letWord =>
    obtain rfl : text = "let" := proper
    exact Text.isWord_let
  | null =>
    obtain rfl : text = "null" := proper
    exact Text.isWord_null
  | leftParen | rightParen | assign | plus | minus | multiply | divide =>
    obtain rfl : text = _ := proper
    exact glyph rfl
  | _ => exact proper.elim

/-- The text of a token that comes from a fragment decides its kind. -/
theorem Kind.HasText.tokenKind_eq {kind : Kind} {text : String} (proper : kind.HasText text) :
    Text.tokenKind text.toList = kind := by
  cases kind with
  | number => exact Text.IsNumeral.tokenKind_eq proper
  | identifier => exact Text.IsName.tokenKind_eq proper
  | letWord | null | leftParen | rightParen | assign | plus | minus | multiply | divide =>
    obtain rfl : text = _ := proper
    rfl
  | _ => exact proper.elim

/-- The texts of plain tokens decide their kinds as well. -/
theorem Token.map_kind_value_eq {tokens : List Token} (plain : ∀ token ∈ tokens, token.IsPlain) :
    tokens.map (fun token => (token.kind, token.value)) =
      (tokens.map (·.value)).map fun value => (Text.tokenKind value.toList, value) := by
  rw [List.map_map]
  apply List.map_congr_left
  intro token member
  have kind : token.kind = Text.tokenKind token.value.toList := plain token member
  rw [kind]
  rfl

namespace Fragment

/-- Two fragments with a space between them and nothing else. -/
def Adjoins (first second : Fragment) : Prop :=
  second.before = first.before ++ first.text ++ [' ']

/-- Putting the same text before two fragments leaves one space between them. -/
theorem Adjoins.movedBy {first second : Fragment} (adjoins : first.Adjoins second)
    (distance : Nat) (added : List Char) :
    (first.movedBy distance added).Adjoins (second.movedBy distance added) := by
  have same : second.before = first.before ++ first.text ++ [' '] := adjoins
  change added ++ second.before = added ++ first.before ++ first.text ++ [' ']
  rw [same]
  simp

/-- Words joined by single spaces are visible fragments that begin with the source and have single
spaces between them. -/
theorem isChain_visible_intercalate (settings : LexicalSettings) {words : List (List Char)}
    (each : ∀ word ∈ words, Text.IsWord word) :
    (∀ first ∈ (visible settings ([' '].intercalate words)).head?, first.before = []) ∧
      (visible settings ([' '].intercalate words)).IsChain Adjoins := by
  induction words with
  | nil =>
    have none : visible settings ([' '].intercalate []) = [] :=
      visible_eq_nil_of_isBlank settings rfl
    rw [none]
    exact ⟨by simp, .nil⟩
  | cons word rest ih =>
    have isWord := each word List.mem_cons_self
    have alone : visible settings word = [⟨0, [], word⟩] :=
      visible_eq_singleton (fun c inside => isWord.isDelimiter_eq_false settings inside)
        isWord.isBlank_eq_false
    cases rest with
    | nil =>
      rw [List.intercalate_singleton, alone]
      exact ⟨by simp, .singleton _⟩
    | cons second rest =>
      obtain ⟨begins, chain⟩ := ih fun word member => each word (List.mem_cons_of_mem _ member)
      have space : settings.isDelimiter ' ' = true := rfl
      rw [List.intercalate_cons_cons, List.append_assoc, List.singleton_append,
        visible_append space, alone, List.singleton_append]
      refine ⟨by simp, List.isChain_cons.2 ⟨?_, ?_⟩⟩
      · intro later found
        rw [List.head?_map] at found
        obtain ⟨other, first, rfl⟩ := Option.map_eq_some_iff.1 found
        change word ++ [' '] ++ other.before = [] ++ word ++ [' ']
        rw [begins other first, List.append_nil, List.nil_append]
      · rw [List.isChain_map]
        exact chain.imp fun first second adjoins => adjoins.movedBy _ _

variable {settings : LexicalSettings} {source : List Char} {fragment : Fragment}

/-- A fragment of a source without newlines stands on the first line. -/
theorem line_span (free : '\n' ∉ source) (member : fragment ∈ visible settings source) :
    fragment.span.start.line = 1 ∧ fragment.span.stop.line = 1 := by
  obtain ⟨after, split⟩ := exists_after_of_mem (List.mem_filter.1 member).1
  have none : source.count '\n' = 0 := List.count_eq_zero.2 free
  have first : Position.start.line = 1 := rfl
  rw [split, List.count_append, List.count_append] at none
  rw [span, spanOf, Position.line_afterAll, Position.line_afterAll, List.count_append, first]
  omega

/-- The span after a single space begins one byte after the span before it. -/
theorem Adjoins.offset_eq {first second : Fragment} (adjoins : first.Adjoins second) :
    second.span.start.offset = first.span.stop.offset + 1 := by
  have same : second.before = first.before ++ first.text ++ [' '] := adjoins
  have stop : first.span.stop.offset = Text.byteCount (first.before ++ first.text) :=
    Position.offset_afterAll_start _
  have start : second.span.start.offset = Text.byteCount second.before :=
    Position.offset_afterAll_start _
  rw [stop, start, same, Text.byteCount_append _ [' ']]
  rfl

end Fragment

namespace Lexing

/-- The tokens of words with single spaces between them are on one line and one byte apart. -/
theorem placed_of_words {settings : LexicalSettings} {words : List (List Char)}
    (each : ∀ word ∈ words, Text.IsWord word) {tokens : TokenSequence}
    (found : expected settings ([' '].intercalate words) = .ok tokens.toList) :
    (∀ token ∈ tokens.toList, token.span.start.line = 1 ∧ token.span.stop.line = 1) ∧
      tokens.body.IsChain fun first second =>
        second.span.start.offset = first.span.stop.offset + 1 := by
  have texts := Fragment.map_text_visible_intercalate settings each
  have inside : ∀ fragment ∈ Fragment.visible settings ([' '].intercalate words),
      Text.IsWord fragment.text := fun fragment member =>
    each _ (texts ▸ List.mem_map_of_mem member)
  have body := body_eq_of_isWord inside found
  have last := (map_judge_of_expected_ok found).2
  have free := Text.newline_notMem_intercalate each
  constructor
  · intro token member
    rcases List.mem_append.1 member with proper | terminator
    · rw [body] at proper
      obtain ⟨fragment, visible, rfl⟩ := List.mem_map.1 proper
      exact Fragment.line_span free visible
    · obtain rfl := List.mem_singleton.1 terminator
      have line : (Position.start.afterAll ([' '].intercalate words)).line = 1 := by
        rw [Position.line_afterAll, List.count_eq_zero.2 free]
        rfl
      rw [last]
      exact ⟨line, line⟩
  · have chain := (Fragment.isChain_visible_intercalate settings each).2
    rw [body, List.isChain_map]
    exact chain.imp fun first second adjoins => adjoins.offset_eq

/-- The tokens of a source fit into one sequence with a terminator. -/
theorem length_body_le {settings : LexicalSettings} {source : List Char} {tokens : TokenSequence}
    (found : expected settings source = .ok tokens.toList) :
    tokens.body.length ≤ Limits.maxTokenCount - 1 := by
  have fits := (exists_collect_eq_ok_iff.1 ⟨_, found⟩).2
  have count := congrArg List.length (map_judge_of_expected_ok found).1
  rw [List.length_map, List.length_map] at count
  rw [← count]
  exact fits

/-- The texts of the tokens of any source with single spaces between them are a normal form. Under
all settings they are lexed to tokens of the same kinds with the same texts, in the same order, and
nothing is truncated. All of these tokens stand on the first line, each one byte after the one
before it, and their texts with single spaces between them are the same source again. -/
theorem exists_tokens_of_spelling (settings others : LexicalSettings) (source : String)
    (lexing : Lexing) (tokens : TokenSequence) (lexed : ofSource? settings source = some lexing)
    (succeeded : lexing.result = .ok tokens) :
    ∃ again respaced, ofSource? others tokens.spelling = some again ∧
      again.result = .ok respaced ∧
      respaced.toList.map (fun token => (token.kind, token.value)) =
        tokens.toList.map (fun token => (token.kind, token.value)) ∧
      again.tally.truncatedOperators = 0 ∧
      (∀ token ∈ respaced.toList, token.span.start.line = 1 ∧ token.span.stop.line = 1) ∧
      (respaced.body.IsChain fun first second =>
        second.span.start.offset = first.span.stop.offset + 1) ∧
      respaced.spelling = tokens.spelling := by
  have proper : ∀ token ∈ tokens.body, token.kind.HasText token.value :=
    fun token => hasText_of_mem_body lexed succeeded
  have each : ∀ word ∈ tokens.body.map (·.value), Text.IsWord word.toList :=
    List.forall_mem_map.2 fun token member => (proper token member).isWord
  have found := result_eq lexed
  rw [succeeded] at found
  have fits : (tokens.body.map (·.value)).length ≤ Limits.maxTokenCount - 1 := by
    rw [List.length_map]
    exact length_body_le found.symm
  obtain ⟨again, respaced, relexed, succeededAgain, values, kinds, whole⟩ :=
    exists_tokens_of_words others each fits
  have spelled : tokens.spelling.toList =
      [' '].intercalate ((tokens.body.map (·.value)).map String.toList) :=
    String.toList_intercalate
  have refound := result_eq relexed
  rw [succeededAgain] at refound
  have placed := placed_of_words (List.forall_mem_map.2 each) (spelled ▸ refound.symm)
  have plain : ∀ token ∈ tokens.body, token.IsPlain :=
    fun token member => (proper token member).tokenKind_eq.symm
  have bodies : respaced.body.map (fun token => (token.kind, token.value)) =
      tokens.body.map (fun token => (token.kind, token.value)) := by
    rw [Token.map_kind_value_eq kinds, Token.map_kind_value_eq plain, values]
  refine ⟨again, respaced, relexed, succeededAgain, ?_, whole, placed.1, placed.2, ?_⟩
  · rw [TokenSequence.toList, TokenSequence.toList, List.map_append, List.map_append, bodies]
    rfl
  · rw [TokenSequence.spelling, values]
    rfl

/-- The first two tokens of this source lost characters, a line end among them. Under strict
settings with line ends as delimiters the tokens with single spaces between them are lexed to the
same tokens. -/
theorem exists_tokens_of_spelling_truncated :
    ∃ lexing tokens again respaced,
      ofSource? ⟨false, true, true, false⟩ "(x   +é\n12 let" = some lexing ∧
      lexing.result = .ok tokens ∧ lexing.tally.truncatedOperators = 2 ∧
      tokens.spelling = "( + let" ∧ ofSource? ⟨true, false, true, true⟩ "( + let" = some again ∧
      again.result = .ok respaced ∧ again.tally.truncatedOperators = 0 ∧
      respaced.toList.map (fun token => (token.kind, token.value)) =
        [(.leftParen, "("), (.plus, "+"), (.letWord, "let"), (.eof, "EOF")] := by
  obtain ⟨lexing, lexed, found⟩ :=
    @exists_result_eq ⟨false, true, true, false⟩ "(x   +é\n12 let" (by decide)
  have listed : expected ⟨false, true, true, false⟩ "(x   +é\n12 let".toList =
      .ok [⟨.leftParen, "(", ⟨⟨0, 1, 1⟩, ⟨1, 1, 2⟩⟩⟩, ⟨.plus, "+", ⟨⟨5, 1, 6⟩, ⟨6, 1, 7⟩⟩⟩,
        ⟨.letWord, "let", ⟨⟨12, 2, 4⟩, ⟨15, 2, 7⟩⟩⟩, ⟨.eof, "EOF", ⟨⟨15, 2, 7⟩, ⟨15, 2, 7⟩⟩⟩] := rfl
  rw [listed] at found
  obtain ⟨tokens, succeeded⟩ := exists_map_toList_eq_ok_iff.1 ⟨_, found⟩
  rw [succeeded] at found
  have listing := Except.ok.inj found
  have spelled : tokens.spelling = "( + let" := by
    have body : tokens.body = tokens.toList.dropLast := (List.dropLast_concat).symm
    rw [TokenSequence.spelling, body, listing]
    decide
  obtain ⟨again, respaced, relexed, succeededAgain, same, whole, -⟩ :=
    exists_tokens_of_spelling ⟨false, true, true, false⟩ ⟨true, false, true, true⟩
      "(x   +é\n12 let" lexing tokens lexed succeeded
  rw [spelled] at relexed
  rw [listing] at same
  exact ⟨lexing, tokens, again, respaced, lexed, succeeded, truncatedOperators_eq_length lexed,
    spelled, relexed, succeededAgain, whole, same⟩

end Lexing

end LexisFront
