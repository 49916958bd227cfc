import LexisFront.Proofs.Lexing.Counters
import LexisFront.Proofs.Pipeline.ErrorPlace

/-!
# Runs without faults

A machine that runs a source can fail in ways that are no errors of the source. Most of them leave
a run, or the excerpt for its error, without a value: a position out of range, a span that runs
backwards, a terminator among the tokens, a negative number of marks. The others are steps that
have a value here whatever happens: counters grow without bound, the glyph of an operator is cut
off without looking at bytes, and the terminator is not found by its index. A source of at most
`2 ^ 32 - 2` characters meets none of these faults.
-/

namespace LexisFront

/-- A source that fits into a file is short enough for every position in it. -/
theorem Source.length_le_of_utf8ByteSize_le {source : String}
    (fits : source.utf8ByteSize ≤ Limits.maxFileSize) : source.length ≤ UInt32.size - 2 := by
  have bytes := Text.length_le_byteCount source.toList
  rw [Text.byteCount_toList, String.length_toList] at bytes
  have narrow : UInt32.size = 4294967296 := rfl
  have limit : Limits.maxFileSize = 10485760 := rfl
  omega

/-- A glyph has one byte. -/
theorem Kind.utf8Size_of_ofGlyph? {glyph : Char} {kind : Kind}
    (opens : ofGlyph? glyph = some kind) : glyph.utf8Size = 1 := by
  unfold ofGlyph? at opens
  split at opens
  case h_8 => contradiction
  all_goals rfl

/-- An operator fragment opens with its glyph. -/
theorem Verdict.eq_cons_of_operator {fragment : List Char} {kind : Kind} {glyph : Char}
    {rest : List Char} (judged : ofFragment fragment = .operator kind glyph rest) :
    fragment = glyph :: rest ∧ Kind.ofGlyph? glyph = some kind := by
  have noText (text : List Char) : ofText text ≠ .operator kind glyph rest := by
    unfold ofText
    split
    · simp
    · split <;> simp
  unfold ofFragment at judged
  split at judged
  · contradiction
  · split at judged
    · exact absurd judged (noText _)
    · split at judged
      · rename_i opens
        obtain ⟨rfl, rfl, rfl⟩ := Verdict.operator.inj judged
        exact ⟨rfl, opens⟩
      · exact absurd judged (noText _)

/-- The first byte of an operator fragment is its glyph. -/
theorem Verdict.splitBytes?_of_operator {fragment : List Char} {kind : Kind} {glyph : Char}
    {rest : List Char} (judged : ofFragment fragment = .operator kind glyph rest) :
    splitBytes? [] fragment 1 = some ([glyph], rest) := by
  obtain ⟨rfl, opens⟩ := eq_cons_of_operator judged
  have split := splitBytes?_append [] [glyph] rest
  rw [Text.byteCount_cons, Text.byteCount_nil, Kind.utf8Size_of_ofGlyph? opens] at split
  exact split

/-- The token at the last index of a sequence is the terminator. -/
theorem TokenSequence.get?_size_sub_one (tokens : TokenSequence) :
    tokens.get? (tokens.size - 1) = some tokens.last :=
  if_pos (Nat.add_sub_cancel _ 1)

namespace FrontRun

/-- A run of a source meets no fault, nor does the excerpt for its error. -/
structure FaultFree (settings : LexicalSettings) (source : String) (lexing : Lexing)
    (run : FrontRun) : Prop where
  /-- Positions stay in range, spans do not run backwards and no terminator is appended. -/
  lexed : Lexing.ofSource? settings source = some lexing
  /-- So the run has an outcome. -/
  ran : ofSource? settings source = some run
  /-- Counters stay in the range of 64 bits. -/
  counters : lexing.tally.AtMost (UInt64.size - 1)
  /-- The first byte of an operator fragment is a character by itself. -/
  split : ∀ fragment ∈ Fragment.visible settings source.toList, ∀ kind glyph rest,
    Verdict.ofFragment fragment.text = .operator kind glyph rest →
      splitBytes? [] fragment.text 1 = some ([glyph], rest)
  /-- A sequence of tokens has one at its last index. -/
  last : ∀ tokens, lexing.result = .ok tokens →
    tokens.get? (tokens.size - 1) = some tokens.last
  /-- The marks under the place of an error are not fewer than none. -/
  excerpt : ∀ error span, run.result = .error error → error.span? = some span →
    ∀ message, ∃ text, Source.excerpt? source span message = some text

/-- A source that fits into a file is short, and no short source meets a fault. -/
theorem exists_faultFree (settings : LexicalSettings) (source : String) :
    (source.utf8ByteSize ≤ Limits.maxFileSize → source.length ≤ UInt32.size - 2) ∧
      (source.length ≤ UInt32.size - 2 →
        ∃ lexing run, FaultFree settings source lexing run) := by
  refine ⟨Source.length_le_of_utf8ByteSize_le, fun short => ?_⟩
  obtain ⟨lexing, lexed⟩ := Lexing.exists_ofSource?_eq settings short
  obtain ⟨run, ran⟩ := exists_run settings short
  refine ⟨lexing, run, ?_⟩
  exact {
    lexed
    ran
    counters := Lexing.atMost_of_ofSource? short lexed
    split := fun fragment _ kind glyph rest => Verdict.splitBytes?_of_operator
    last := fun tokens _ => tokens.get?_size_sub_one
    excerpt := fun error span failed about message => by
      obtain ⟨line, covered, width, marks⟩ :=
        (isPlace_of_error ran failed about).exists_marks message
      exact ⟨_, marks.excerpt_eq⟩ }

/-- This source has an operator that loses a letter of two bytes, and an unknown fragment that
begins with a newline, so that its error has one mark after the first line. -/
theorem exists_faultFree_newline :
    "+é \n?".utf8ByteSize ≤ Limits.maxFileSize ∧
      ∃ lexing run text, FaultFree ⟨false, true, true, false⟩ "+é \n?" lexing run ∧
        run.result = .error (.lexing (.unrecognizedToken "\n?" 1 ⟨⟨4, 1, 4⟩, ⟨6, 2, 2⟩⟩)) ∧
        Source.excerpt? "+é \n?" ⟨⟨4, 1, 4⟩, ⟨6, 2, 2⟩⟩ "m" = some text := by
  refine ⟨by decide, ?_⟩
  obtain ⟨short, safe⟩ := exists_faultFree ⟨false, true, true, false⟩ "+é \n?"
  obtain ⟨lexing, run, faultFree⟩ := safe (short (by decide))
  have outcome : (ofSource? ⟨false, true, true, false⟩ "+é \n?").map (·.result) =
      some (.error (.lexing (.unrecognizedToken "\n?" 1 ⟨⟨4, 1, 4⟩, ⟨6, 2, 2⟩⟩))) := rfl
  rw [faultFree.ran, Option.map_some, Option.some.injEq] at outcome
  obtain ⟨text, shown⟩ := faultFree.excerpt _ _ outcome rfl "m"
  exact ⟨lexing, run, text, faultFree, outcome, shown⟩

end FrontRun

end LexisFront
