import LexisFront.Proofs.Lexing.FinerCut
import LexisFront.Proofs.Lexing.TallyReport
import Mathlib.Data.List.Chain

/-!
# What stands between tokens

Cutting a source takes away its delimiters, skipping takes away blank fragments, and truncation
takes away what follows a glyph. Where nothing is truncated only the first two are left, and both
take away white space alone: every delimiter is white space, and so is every character of a blank
fragment.

`Fragment.Spread` says of fragments how they stand in a text: white space, a fragment, white space
again, and so on to the end. The visible fragments of a source are spread over it, whatever
delimits, because a skipped fragment only makes the white space around it longer. The tokens of
these fragments therefore hold every other character of the source, and a source without
truncation is its tokens with white space around them.
-/

namespace LexisFront

/-- The span between two spans, from the stop of the first to the start of the second. -/
def Span.gap (first second : Span) : Span := ⟨first.stop, second.start⟩

/-- A span slices white space out of a source, or nothing at all. -/
def Span.IsBlank (span : Span) (source : String) : Prop :=
  ∃ text, span.slice? source = some text ∧ Text.isBlank text.toList = true

/-- A span over white space slices it out of its source. -/
theorem Span.isBlank_afterAll (before after : List Char) {text : List Char}
    (blank : Text.isBlank text = true) :
    Span.IsBlank
      ⟨Position.start.afterAll before, Position.start.afterAll (before ++ text)⟩
      (String.ofList (before ++ text ++ after)) := by
  refine ⟨String.ofList text, Span.slice?_afterAll before text after, ?_⟩
  rw [String.toList_ofList]
  exact blank

/-- Two blank texts are blank together. -/
theorem Text.isBlank_append {left right : List Char} (first : isBlank left = true)
    (second : isBlank right = true) : isBlank (left ++ right) = true := by
  unfold isBlank at first second ⊢
  rw [List.all_append, first, second]
  rfl

/-- A delimiter is blank. -/
theorem Text.isBlank_delimiter {settings : LexicalSettings} {c : Char}
    (delimits : settings.isDelimiter c = true) : isBlank [c] = true := by
  simp [isBlank, isBlankChar_of_isDelimiter delimits]

namespace Fragment

/-- Fragments that stand in a text after another text, with nothing but white space around
them. -/
inductive Spread : List Char → List Char → List Fragment → Prop
  /-- After the last fragment there is only white space. -/
  | blank {before text : List Char} (blank : Text.isBlank text = true) : Spread before text []
  /-- White space comes before the first fragment, and the others stand after it. -/
  | next {before gap rest : List Char} {fragment : Fragment} {fragments : List Fragment}
      (blank : Text.isBlank gap = true) (placed : fragment.before = before ++ gap)
      (later : Spread (before ++ gap ++ fragment.text) rest fragments) :
      Spread before (gap ++ fragment.text ++ rest) (fragment :: fragments)

/-- White space in front leaves fragments spread. -/
theorem Spread.append {before gap text : List Char} {fragments : List Fragment}
    (blank : Text.isBlank gap = true) (spread : Spread (before ++ gap) text fragments) :
    Spread before (gap ++ text) fragments := by
  cases spread with
  | blank rest => exact .blank (Text.isBlank_append blank rest)
  | @next _ middle rest fragment fragments inner placed later =>
    have joined : gap ++ (middle ++ fragment.text ++ rest) =
        gap ++ middle ++ fragment.text ++ rest := by simp
    rw [joined]
    apply Spread.next (Text.isBlank_append blank inner)
    · rw [placed, List.append_assoc]
    · rw [← List.append_assoc before]
      exact later

variable {settings : LexicalSettings}

/-- The visible fragments of the pieces of a text are spread over it. -/
theorem spread_ofPieces {text : List Char} {pieces : List Text.Piece}
    (isCut : Text.IsCut settings.isDelimiter text pieces) (index : Nat) (before : List Char) :
    Spread before text
      ((ofPieces index before pieces).filter fun fragment => !Text.isBlank fragment.text) := by
  -- A blank piece goes to the white space before the next fragment, and so does a delimiter.
  induction isCut generalizing index before with
  | @last text free =>
    by_cases blank : Text.isBlank text = true
    · have none : (ofPieces index before [⟨text, none⟩]).filter
          (fun fragment => !Text.isBlank fragment.text) = [] := by simp [ofPieces, blank]
      rw [none]
      exact .blank blank
    · have alone : (ofPieces index before [⟨text, none⟩]).filter
          (fun fragment => !Text.isBlank fragment.text) = [⟨index, before, text⟩] := by
        simp [ofPieces, blank]
      have spread := @Spread.next before [] [] ⟨index, before, text⟩ [] rfl
        (List.append_nil before).symm (.blank rfl)
      rw [alone]
      simpa using spread
  | @more text rest c pieces free delimits later ih =>
    have after := ih (index + 1) (before ++ (text ++ [c]))
    have delimiter := Text.isBlank_delimiter delimits
    have whole : text ++ c :: rest = text ++ [c] ++ rest := by simp
    by_cases blank : Text.isBlank text = true
    · have skipped := Text.isBlank_append blank delimiter
      rw [ofPieces, List.filter_cons_of_neg (by simp [blank]), whole]
      exact Spread.append skipped after
    · rw [← List.append_assoc] at after
      have others := Spread.append delimiter after
      have spread := @Spread.next before [] ([c] ++ rest) ⟨index, before, text⟩ _ rfl
        (List.append_nil before).symm (by rw [List.append_nil]; exact others)
      rw [ofPieces, List.filter_cons_of_pos (by simp [blank])]
      simpa [Text.Piece.characters] using spread

/-- The visible fragments of a source are spread over it. -/
theorem spread_visible (settings : LexicalSettings) (source : List Char) :
    Spread [] source (visible settings source) := by
  have spread := spread_ofPieces (Text.isCut_cut settings.isDelimiter source) 0 []
  rw [ofPieces_cut] at spread
  exact spread

/-- Fragments without white space that are spread over a text are all of it but its white
space. -/
theorem Spread.flatMap_text {before text : List Char} {fragments : List Fragment}
    (spread : Spread before text fragments)
    (solid : ∀ fragment ∈ fragments, ∀ c ∈ fragment.text, Text.isBlankChar c = false) :
    fragments.flatMap Fragment.text = text.filter fun c => !Text.isBlankChar c := by
  have dropped {gap : List Char} (blank : Text.isBlank gap = true) :
      (gap.filter fun c => !Text.isBlankChar c) = [] := by
    rw [List.filter_eq_nil_iff]
    intro c member
    have white := List.all_eq_true.1 blank c member
    simp [white]
  induction spread with
  | blank blank => exact (dropped blank).symm
  | @next before gap rest fragment fragments blank placed later ih =>
    have kept : (fragment.text.filter fun c => !Text.isBlankChar c) = fragment.text := by
      rw [List.filter_eq_self]
      intro c member
      rw [solid fragment List.mem_cons_self c member]
      rfl
    have others := ih fun fragment member => solid fragment (List.mem_cons_of_mem _ member)
    rw [List.flatMap_cons, others, List.filter_append, List.filter_append, dropped blank, kept,
      List.nil_append]

/-- From a place over spread fragments to the end of the text there is only white space between
two neighbours. -/
theorem Spread.isChain_gap {before text : List Char} {fragments : List Fragment}
    (spread : Spread before text fragments) {first : Span}
    (placed : first.stop = Position.start.afterAll before) :
    (first :: (fragments.map span ++
        [Span.emptyAt (Position.start.afterAll (before ++ text))])).IsChain
      fun one two => (one.gap two).IsBlank (String.ofList (before ++ text)) := by
  induction spread generalizing first with
  | @blank before text blank =>
    have white := Span.isBlank_afterAll before [] blank
    rw [List.append_nil] at white
    refine List.isChain_cons_cons.2 ⟨?_, List.IsChain.singleton _⟩
    rw [Span.gap, placed]
    exact white
  | @next before gap rest fragment fragments blank stands later ih =>
    have whole : before ++ (gap ++ fragment.text ++ rest) =
        before ++ gap ++ fragment.text ++ rest := by simp
    have parts : before ++ (gap ++ fragment.text ++ rest) =
        before ++ gap ++ (fragment.text ++ rest) := by simp
    have stop : fragment.span.stop =
        Position.start.afterAll (before ++ gap ++ fragment.text) := by
      rw [Fragment.span, spanOf, stands]
    refine List.isChain_cons_cons.2 ⟨?_, ?_⟩
    · have white := Span.isBlank_afterAll before (fragment.text ++ rest) blank
      rw [Span.gap, placed, parts]
      rw [← stands] at white ⊢
      exact white
    · rw [whole]
      exact ih stop

end Fragment

namespace Lexing

/-- The tokens of a source hold all of it but its white space. -/
structure Lossless (source : String) (tokens : TokenSequence) : Prop where
  /-- The texts of the tokens, put together, are the source without its white space. -/
  text_eq : String.join (tokens.body.map (·.value)) =
    String.ofList (source.toList.filter fun c => !Text.isBlankChar c)
  /-- From the start of the source over the tokens to the terminator there is only white space
  between two neighbours. -/
  blank : (Span.emptyAt .start :: tokens.toList.map (·.span)).IsChain
    fun first second => (first.gap second).IsBlank source
  /-- Between two tokens there is something. -/
  apart : (tokens.body.map (·.span)).IsChain fun first second => (first.gap second).isEmpty = false
  /-- The terminator stands after the last byte of the source. -/
  ends : tokens.last.span.start.offset = source.utf8ByteSize

/-- Tokens of words hold all of their source but its white space. -/
theorem lossless_of_isWord {settings : LexicalSettings} {source : String} {tokens : TokenSequence}
    (words : ∀ fragment ∈ Fragment.visible settings source.toList, Text.IsWord fragment.text)
    (found : expected settings source.toList = .ok tokens.toList) : Lossless source tokens := by
  obtain ⟨all, last⟩ := map_judge_of_expected_ok found
  have body := body_eq_of_isWord words found
  have spread := Fragment.spread_visible settings source.toList
  have spans : tokens.body.map (·.span) =
      (Fragment.visible settings source.toList).map Fragment.span := by
    rw [body, List.map_map]
    rfl
  constructor
  case text_eq =>
    have values : tokens.body.map (·.value) =
        (Fragment.visible settings source.toList).map fun fragment =>
          String.ofList fragment.text := by
      rw [body, List.map_map]
      rfl
    have texts := spread.flatMap_text fun fragment member c inside =>
      (words fragment member).isBlankChar_eq_false inside
    rw [values, ← texts, ← String.toList_inj, String.toList_ofList]
    simp [List.flatMap, Function.comp_def]
  case blank =>
    have chain := @Fragment.Spread.isChain_gap [] _ _ spread (Span.emptyAt .start) rfl
    rw [List.nil_append, String.ofList_toList, ← spans] at chain
    rw [TokenSequence.toList, List.map_append, List.map_singleton, last]
    exact chain
  case apart =>
    have ordered := (pairwise_of_map_judge all).isChain
    rw [List.isChain_map]
    apply ordered.imp
    intro first second before
    have different : first.span.stop.offset ≠ second.span.start.offset := Nat.ne_of_lt before
    exact beq_eq_false_iff_ne.2 different
  case ends =>
    have bytes := Position.offset_afterAll_start source.toList
    rw [Text.byteCount_toList] at bytes
    rw [last]
    exact bytes

/-- A source that is lexed to tokens and of which no operator is truncated loses nothing but white
space: the texts of its tokens are the source without its white space, and around and between the
tokens stands white space alone, at least one character of it between two tokens. Where operators
may not be truncated every source that is lexed to tokens is such a source. -/
theorem lossless_of_untruncated (settings : LexicalSettings) (source : String) (lexing : Lexing)
    (tokens : TokenSequence) (lexed : ofSource? settings source = some lexing)
    (succeeded : lexing.result = .ok tokens) :
    (settings.strictOperators = true → lexing.tally.truncatedOperators = 0) ∧
      (lexing.tally.truncatedOperators = 0 → Lossless source tokens) := by
  constructor
  · intro strict
    obtain ⟨outcome, runs, rfl⟩ := runs_of_ofSource? lexed
    have ended := runs.ended .start
    have kept := truncatedOperators_of_strict ended strict
    exact kept
  · intro untruncated
    have found := result_eq lexed
    rw [succeeded] at found
    apply lossless_of_isWord _ found.symm
    intro fragment member
    exact isWord_of_untruncated lexed succeeded untruncated member

/-- The two tokens of this source stand between a tab, a line end after a space of another width,
and spaces; none of these is part of a token. -/
theorem lossless_of_untruncated_tab :
    ∃ lexing tokens, ofSource? ⟨false, true, true, false⟩ " \t 12 \u2003\n - " = some lexing ∧
      lexing.result = .ok tokens ∧ lexing.tally.truncatedOperators = 0 ∧
      Lossless " \t 12 \u2003\n - " tokens ∧
      tokens.toList = [⟨.number, "12", ⟨⟨3, 1, 4⟩, ⟨5, 1, 6⟩⟩⟩, ⟨.minus, "-", ⟨⟨11, 2, 2⟩, ⟨12, 2, 3⟩⟩⟩,
        ⟨.eof, "EOF", ⟨⟨13, 2, 4⟩, ⟨13, 2, 4⟩⟩⟩] := by
  obtain ⟨lexing, lexed, found⟩ :=
    @exists_result_eq ⟨false, true, true, false⟩ " \t 12 \u2003\n - " (by decide)
  have listed : expected ⟨false, true, true, false⟩ " \t 12 \u2003\n - ".toList =
      .ok [⟨.number, "12", ⟨⟨3, 1, 4⟩, ⟨5, 1, 6⟩⟩⟩, ⟨.minus, "-", ⟨⟨11, 2, 2⟩, ⟨12, 2, 3⟩⟩⟩,
        ⟨.eof, "EOF", ⟨⟨13, 2, 4⟩, ⟨13, 2, 4⟩⟩⟩] := rfl
  rw [listed] at found
  obtain ⟨tokens, succeeded⟩ := exists_map_toList_eq_ok_iff.1 ⟨_, found⟩
  rw [succeeded] at found
  have untruncated : lexing.tally.truncatedOperators = 0 := truncatedOperators_eq_length lexed
  have lossless := (lossless_of_untruncated ⟨false, true, true, false⟩ " \t 12 \u2003\n - " lexing
    tokens lexed succeeded).2 untruncated
  exact ⟨lexing, tokens, lexed, succeeded, untruncated, lossless, Except.ok.inj found⟩

end Lexing

end LexisFront
