import LexisFront.Proofs.Lexing.Reference
import LexisFront.Proofs.Source.Lines

/-!
# Places of tokens and errors

A span covers a stretch of a source when its two ends are the places that the checked move
reaches after the text before the stretch and after the stretch itself. Every span that the lexer
reports covers a stretch: that of a token covers the text of the token, also when the token lost
characters of its fragment, and that of an error covers the whole fragment. The spans of tokens
follow one another with at least one byte between them.

Places are also what finds the delimiters. A piece of text carries the delimiter that ended it, and
the lexer moves past that one; a lexer that is given the bare stretches of a source, and looks up in
the source what stands at the place after each of them, comes to the same.
-/

namespace LexisFront

/-- A span covers a stretch of a source: its ends are the places before and after the stretch. -/
def Span.Covers (span : Span) (source : String) (stretch : List Char) : Prop :=
  ∃ before after, source.toList = before ++ stretch ++ after ∧
    Position.start.advanceAll? before = some span.start ∧
    Position.start.advanceAll? (before ++ stretch) = some span.stop

namespace Fragment

variable {settings : LexicalSettings} {source : String}

/-- A visible fragment is one of the fragments of its source and has characters. -/
theorem mem_ofSource_of_mem_visible {text : List Char} {fragment : Fragment}
    (member : fragment ∈ visible settings text) :
    fragment ∈ ofSource settings.isDelimiter text ∧ fragment.text ≠ [] := by
  obtain ⟨inside, seen⟩ := List.mem_filter.1 member
  refine ⟨inside, fun empty => ?_⟩
  rw [empty] at seen
  contradiction

/-- The span of a beginning of a fragment covers it. -/
theorem covers_spanOf {fragment : Fragment} {value rest : List Char}
    (short : source.length ≤ UInt32.size - 2)
    (member : fragment ∈ ofSource settings.isDelimiter source.toList)
    (opens : fragment.text = value ++ rest) : (fragment.spanOf value).Covers source value := by
  obtain ⟨after, split⟩ := exists_after_of_mem member
  have whole : source.toList = fragment.before ++ value ++ (rest ++ after) := by
    rw [split, opens]
    simp
  have inside : (fragment.before ++ value).length ≤ UInt32.size - 2 := by
    rw [← String.length_toList, whole, List.length_append] at short
    omega
  have first : fragment.before.length ≤ UInt32.size - 2 := by
    rw [List.length_append] at inside
    omega
  exact ⟨fragment.before, rest ++ after, whole, Position.advanceAll?_start first,
    Position.advanceAll?_start inside⟩

/-- The span of a beginning of a fragment slices it out of the source. -/
theorem slice?_spanOf {fragment : Fragment} {value rest : List Char}
    (member : fragment ∈ ofSource settings.isDelimiter source.toList)
    (opens : fragment.text = value ++ rest) :
    (fragment.spanOf value).slice? source = some (String.ofList value) := by
  obtain ⟨after, split⟩ := exists_after_of_mem member
  have whole : source = String.ofList (fragment.before ++ value ++ (rest ++ after)) := by
    rw [← String.toList_inj, String.toList_ofList, split, opens]
    simp
  rw [whole]
  exact Span.slice?_afterAll fragment.before value (rest ++ after)

/-- The span of a beginning of a fragment ends before a later fragment begins. -/
theorem stop_offset_lt {first second : Fragment} {value rest other : List Char}
    (precedes : first.Precedes second) (opens : first.text = value ++ rest) :
    (first.spanOf value).stop.offset < (second.spanOf other).start.offset := by
  obtain ⟨c, middle, placed⟩ := precedes
  have positive := c.utf8Size_pos
  simp only [spanOf, placed, opens, Position.offset_afterAll, Text.byteCount_append,
    Text.byteCount_cons]
  omega

end Fragment

/-- The character of a source that begins at a byte offset. At the end of the source there is none,
nor is there one beyond the end or inside a character. -/
def Source.characterAt? (source : String) (offset : Nat) : Option Char :=
  (splitBytes? [] source.toList offset).bind fun split => split.2.head?

/-- At the offset after a text stands the first character of what follows. -/
theorem Source.characterAt?_offset {before after : List Char} {place : Position}
    (reached : place = Position.start.afterAll before) :
    characterAt? (String.ofList (before ++ after)) place.offset = after.head? := by
  rw [characterAt?, String.toList_ofList, reached, Position.offset_afterAll_start,
    splitBytes?_append, Option.bind_some]

namespace Lexer

variable {settings : LexicalSettings}

/-- Takes the next stretch of a source; the delimiter is read in the source, where the stretch
ends. -/
def stepReading? (settings : LexicalSettings) (source : String) (lexer : Lexer)
    (text : List Char) : Option Step :=
  match lexer.cursor.advanceAll? text with
  | none => none
  | some stop => step? settings lexer ⟨text, Source.characterAt? source stop.offset⟩

/-- Takes stretches of a source until none is left or one is no token. -/
def runReading? (settings : LexicalSettings) (source : String) (lexer : Lexer) :
    List (List Char) → Option Lexing
  | [] => some lexer.finish
  | text :: rest =>
    match stepReading? settings source lexer text with
    | none => none
    | some (.inl later) => runReading? settings source later rest
    | some (.inr lexing) => some lexing

/-- What a piece carries as its delimiter is what stands in the source after its text. -/
theorem stepReading?_eq_step? {lexer : Lexer} {before after : List Char} {piece : Text.Piece}
    (placed : lexer.cursor = Position.start.afterAll before)
    (next : after.head? = piece.delimiter) :
    stepReading? settings (String.ofList (before ++ piece.text ++ after)) lexer piece.text =
      step? settings lexer piece := by
  rw [stepReading?]
  cases moved : lexer.cursor.advanceAll? piece.text with
  | none =>
    obtain ⟨start, run, tally, warnings⟩ := lexer
    simp only [step?, moved]
  | some stop =>
    have reached := Position.eq_afterAll_append placed moved
    simp only [Source.characterAt?_offset reached, next]

/-- Reading the delimiters of the rest of a source comes to what its pieces come to. -/
theorem runReading?_eq_runPieces? {rest : List Char} {pieces : List Text.Piece}
    (isCut : Text.IsCut settings.isDelimiter rest pieces) {before : List Char} {lexer : Lexer}
    (placed : lexer.cursor = Position.start.afterAll before) :
    runReading? settings (String.ofList (before ++ rest)) lexer (pieces.map Text.Piece.text) =
      runPieces? settings lexer pieces := by
  induction isCut generalizing before lexer with
  | @last text free =>
    have same := @stepReading?_eq_step? settings lexer before [] ⟨text, none⟩ placed rfl
    rw [List.append_nil] at same
    rw [List.map_cons, runReading?, runPieces?, same]
    rfl
  | @more text rest c pieces free delimits later ih =>
    have same := @stepReading?_eq_step? settings lexer before (c :: rest) ⟨text, some c⟩ placed rfl
    rw [List.append_assoc] at same
    rw [List.map_cons, runReading?, runPieces?, same]
    cases stepped : step? settings lexer ⟨text, some c⟩ with
    | none => rfl
    | some outcome =>
      rcases step?_cases stepped with ⟨next, rfl, moved⟩ | ⟨lexing, error, rfl, -⟩
      · have whole : before ++ (text ++ c :: rest) = before ++ (text ++ [c]) ++ rest := by simp
        rw [whole]
        exact ih (Position.eq_afterAll_append placed moved)
      · rfl

end Lexer

namespace Lexing

variable {settings : LexicalSettings} {source : String}

/-- Lexing takes the stretches of a source between its delimiters one by one, and reads in the source
which delimiter ended each of them. -/
theorem ofSource?_eq_runReading? (settings : LexicalSettings) (source : String) :
    ofSource? settings source =
      (Lexer.runReading? settings source {}
        (source.toList.splitOnP settings.isDelimiter)).map fun lexing =>
          { lexing with events := startEvent settings source :: lexing.events } := by
  have isCut := Text.isCut_cut settings.isDelimiter source.toList
  have same := @Lexer.runReading?_eq_runPieces? settings _ _ isCut [] {} rfl
  rw [List.nil_append, String.ofList_toList, isCut.map_text] at same
  rw [ofSource?, same]

/-- The span of the token of a visible fragment is not empty, covers the text of the token and
slices it out of the source. -/
theorem place_of_judge_ok (short : source.length ≤ UInt32.size - 2) {fragment : Fragment}
    (member : fragment ∈ Fragment.visible settings source.toList) {token : Token}
    (judged : fragment.judge settings = .ok token) :
    token.span.Covers source token.value.toList ∧ token.span.slice? source = some token.value ∧
      token.span.isEmpty = false := by
  obtain ⟨inside, nonempty⟩ := Fragment.mem_ofSource_of_mem_visible member
  obtain ⟨kind, value, rest, rfl, -, opens, keeps⟩ := Fragment.exists_token_of_judge_ok judged
  have text : (fragment.token kind value).value.toList = value := String.toList_ofList
  refine ⟨?_, Fragment.slice?_spanOf inside opens, ?_⟩
  · rw [text]
    exact Fragment.covers_spanOf short inside opens
  · change (fragment.spanOf value).isEmpty = false
    rw [Fragment.spanOf, Position.afterAll_append]
    exact Span.isEmpty_afterAll (keeps nonempty)

/-- The tokens of visible fragments follow one another with a byte between them. -/
theorem pairwise_of_map_judge {tokens : List Token}
    (all : (Fragment.visible settings source.toList).map (Fragment.judge settings) =
      tokens.map .ok) :
    tokens.Pairwise fun first second => first.span.stop.offset < second.span.start.offset := by
  let Apart (first second : Except LexicalError Token) : Prop :=
    ∀ one two, first = .ok one → second = .ok two →
      one.span.stop.offset < two.span.start.offset
  have fragments : ((Fragment.visible settings source.toList).map
      (Fragment.judge settings)).Pairwise Apart := by
    rw [List.pairwise_map]
    apply ((Fragment.pairwise_precedes settings.isDelimiter source.toList).filter _).imp
    intro first second precedes one two firstJudged secondJudged
    obtain ⟨kind, value, rest, rfl, -, opens, -⟩ := Fragment.exists_token_of_judge_ok firstJudged
    obtain ⟨kind, other, -, rfl, -, -, -⟩ := Fragment.exists_token_of_judge_ok secondJudged
    exact Fragment.stop_offset_lt precedes opens
  rw [all, List.pairwise_map] at fragments
  exact fragments.imp fun apart => apart _ _ rfl rfl

/-- Every place that lexing a source of at most `2 ^ 32 - 2` characters reports is exact. The
span of a token covers the text of the token, and tokens follow one another with a byte between
them; the terminator stands at the end of the source. The span of an error about a fragment
covers the whole piece of the source with the number that the error names. -/
theorem places_exact (settings : LexicalSettings) (source : String)
    (short : source.length ≤ UInt32.size - 2) :
    ∃ lexing, ofSource? settings source = some lexing ∧
      (∀ tokens, lexing.result = .ok tokens →
        (∀ token ∈ tokens.body, token.span.Covers source token.value.toList ∧
          token.span.slice? source = some token.value ∧ token.span.isEmpty = false) ∧
        (tokens.body.Pairwise fun first second =>
          first.span.stop.offset < second.span.start.offset) ∧
        tokens.last.span.isEmpty = true ∧
        Position.start.advanceAll? source.toList = some tokens.last.span.start ∧
        Position.start.advanceAll? source.toList = some tokens.last.span.stop) ∧
      ∀ error, lexing.result = .error error →
        match error with
        | .unrecognizedToken text index span | .malformedOperator text index span =>
          (source.toList.splitOnP settings.isDelimiter)[index]? = some text.toList ∧
            span.Covers source text.toList ∧ span.slice? source = some text
        | .fragmentTooLong length index span =>
          ∃ piece, (source.toList.splitOnP settings.isDelimiter)[index]? = some piece ∧
            piece.length = length ∧ span.Covers source piece ∧
            span.slice? source = some (String.ofList piece)
        | .tooManyTokens _ => True := by
  obtain ⟨lexing, lexed, found⟩ := exists_result_eq settings short
  refine ⟨lexing, lexed, fun tokens succeeded => ?_, fun error failed => ?_⟩
  · rw [succeeded] at found
    obtain ⟨all, last⟩ := map_judge_of_expected_ok found.symm
    have whole := Position.advanceAll?_start short
    refine ⟨fun token member => ?_, pairwise_of_map_judge all, ?_, ?_, ?_⟩
    · have judged : .ok token ∈ (Fragment.visible settings source.toList).map
          (Fragment.judge settings) := all ▸ List.mem_map_of_mem member
      obtain ⟨fragment, inside, same⟩ := List.mem_map.1 judged
      exact place_of_judge_ok short inside same
    · rw [last]
      exact beq_self_eq_true _
    · rw [last]
      exact whole
    · rw [last]
      exact whole
  · rw [failed] at found
    rcases exists_judge_of_expected_error found.symm with ⟨fragment, member, judged⟩ | rfl
    · obtain ⟨inside, -⟩ := Fragment.mem_ofSource_of_mem_visible member
      have numbered := Fragment.getElem?_index inside
      have covers := Fragment.covers_spanOf short inside (List.append_nil _).symm
      have slice := Fragment.slice?_spanOf inside (List.append_nil _).symm
      rcases Fragment.judge_error_cases judged with rfl | rfl | rfl
      · exact ⟨fragment.text, numbered, rfl, covers, slice⟩
      · simp only [String.toList_ofList]
        exact ⟨numbered, covers, slice⟩
      · simp only [String.toList_ofList]
        exact ⟨numbered, covers, slice⟩
    · trivial

/-- The first token of this source lost a letter of two bytes, and the place of the second one
counts both of them. -/
theorem places_exact_accent :
    "+é x".length ≤ UInt32.size - 2 ∧
      ∃ lexing tokens, ofSource? ⟨false, true, true, false⟩ "+é x" = some lexing ∧
        lexing.result = .ok tokens ∧
        tokens.body.map (·.span) = [⟨⟨0, 1, 1⟩, ⟨1, 1, 2⟩⟩, ⟨⟨4, 1, 4⟩, ⟨5, 1, 5⟩⟩] ∧
        ∀ token ∈ tokens.body, token.span.Covers "+é x" token.value.toList ∧
          token.span.slice? "+é x" = some token.value ∧ token.span.isEmpty = false := by
  refine ⟨by decide, ?_⟩
  obtain ⟨lexing, lexed, places, -⟩ :=
    places_exact ⟨false, true, true, false⟩ "+é x" (by decide)
  have spans : (ofSource? ⟨false, true, true, false⟩ "+é x").map
      (·.result.toOption.map (·.body.map (·.span))) =
        some (some [⟨⟨0, 1, 1⟩, ⟨1, 1, 2⟩⟩, ⟨⟨4, 1, 4⟩, ⟨5, 1, 5⟩⟩]) := rfl
  rw [lexed, Option.map_some, Option.some.injEq] at spans
  cases succeeded : lexing.result with
  | error error => simp [succeeded, Except.toOption] at spans
  | ok tokens =>
    rw [succeeded] at spans
    exact ⟨lexing, tokens, lexed, succeeded, Option.some.inj spans, (places tokens succeeded).1⟩

end Lexing

end LexisFront
