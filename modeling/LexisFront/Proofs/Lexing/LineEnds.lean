import LexisFront.Proofs.Lexing.Correspondence

/-!
# Line ends as delimiters

A setting lets line ends delimit fragments as the space does. Writing a space for every line end
does the same to a source beforehand: the same stretches stand between the delimiters, each after
as many bytes, since a line end is one byte like the space. So lexing a source with the setting and
lexing the spaced source without it come to the same, apart from lines and columns.
-/

namespace LexisFront

/-- Two positions count the same bytes. -/
def Position.SameOffset (place other : Position) : Prop :=
  other.offset = place.offset

namespace Text

/-- A space for a line end, and any other character itself. -/
def spaceLineEnd (c : Char) : Char :=
  if c = '\n' ∨ c = '\r' then ' ' else c

/-- A piece with a space for the line end that ended it. -/
def Piece.spaced (piece : Piece) : Piece :=
  ⟨piece.text, piece.delimiter.map spaceLineEnd⟩

/-- A space has as many bytes as the line end that it stands for. -/
theorem utf8Size_spaceLineEnd (c : Char) : (spaceLineEnd c).utf8Size = c.utf8Size := by
  unfold spaceLineEnd
  split
  · rename_i lineEnd
    rcases lineEnd with rfl | rfl <;> rfl
  · rfl

/-- A spaced text has as many bytes. -/
theorem byteCount_map_spaceLineEnd (text : List Char) :
    byteCount (text.map spaceLineEnd) = byteCount text := by
  induction text with
  | nil => rfl
  | cons c text ih =>
    rw [List.map_cons, byteCount_cons, byteCount_cons, utf8Size_spaceLineEnd, ih]

/-- A character delimits with line ends exactly when its replacement delimits without. -/
theorem isDelimiter_spaceLineEnd (settings : LexicalSettings) (c : Char) :
    { settings with splitOnNewlines := false }.isDelimiter (spaceLineEnd c) =
      { settings with splitOnNewlines := true }.isDelimiter c := by
  simp only [LexicalSettings.isDelimiter, Bool.false_and, Bool.or_false, Bool.true_and]
  unfold spaceLineEnd
  by_cases lineEnd : c = '\n' ∨ c = '\r'
  · rw [if_pos lineEnd]
    rcases lineEnd with rfl | rfl <;> rfl
  · have feed : (c == '\n') = false := beq_eq_false_iff_ne.2 fun same => lineEnd (.inl same)
    have carriage : (c == '\r') = false := beq_eq_false_iff_ne.2 fun same => lineEnd (.inr same)
    rw [if_neg lineEnd, feed, carriage, Bool.or_false, Bool.or_false]

/-- A character that does not delimit stays itself. -/
theorem spaceLineEnd_eq_self {settings : LexicalSettings} {c : Char}
    (inside : { settings with splitOnNewlines := true }.isDelimiter c = false) :
    spaceLineEnd c = c := by
  refine if_neg ?_
  rintro (rfl | rfl)
  · contradiction
  · contradiction

/-- A text without delimiters stays itself. -/
theorem map_spaceLineEnd_eq_self {settings : LexicalSettings} {text : List Char}
    (free : ∀ c ∈ text, { settings with splitOnNewlines := true }.isDelimiter c = false) :
    text.map spaceLineEnd = text := by
  have kept : ∀ c ∈ text, spaceLineEnd c = c := fun c member =>
    spaceLineEnd_eq_self (free c member)
  exact (List.map_congr_left kept).trans (List.map_id text)

/-- A text without delimiters has none where line ends do not delimit. -/
theorem isDelimiter_eq_false_of_free {settings : LexicalSettings} {text : List Char}
    (free : ∀ c ∈ text, { settings with splitOnNewlines := true }.isDelimiter c = false)
    {c : Char} (member : c ∈ text) :
    { settings with splitOnNewlines := false }.isDelimiter c = false := by
  have inside := free c member
  have kept := spaceLineEnd_eq_self inside
  rw [← isDelimiter_spaceLineEnd, kept] at inside
  exact inside

/-- Where line ends delimit, spacing a text changes no piece of it but its delimiter. -/
theorem IsCut.spaced {settings : LexicalSettings} {text : List Char} {pieces : List Piece}
    (isCut : IsCut { settings with splitOnNewlines := true }.isDelimiter text pieces) :
    IsCut { settings with splitOnNewlines := false }.isDelimiter (text.map spaceLineEnd)
      (pieces.map Piece.spaced) := by
  induction isCut with
  | last free =>
    rw [map_spaceLineEnd_eq_self free]
    exact .last fun c => isDelimiter_eq_false_of_free free
  | @more text rest c pieces free delimits later ih =>
    rw [← isDelimiter_spaceLineEnd] at delimits
    rw [List.map_append, List.map_cons, map_spaceLineEnd_eq_self free]
    exact .more (fun c => isDelimiter_eq_false_of_free free) delimits ih

end Text

namespace Fragment

/-- A fragment after spaces for the line ends before it. -/
def spaced (fragment : Fragment) : Fragment :=
  ⟨fragment.index, fragment.before.map Text.spaceLineEnd, fragment.text⟩

/-- Where line ends delimit, the fragments of spaced pieces are the spaced fragments. -/
theorem ofPieces_spaced {settings : LexicalSettings} {text : List Char}
    {pieces : List Text.Piece}
    (isCut : Text.IsCut { settings with splitOnNewlines := true }.isDelimiter text pieces)
    (index : Nat) (before : List Char) :
    ofPieces index (before.map Text.spaceLineEnd) (pieces.map Text.Piece.spaced) =
      (ofPieces index before pieces).map spaced := by
  induction isCut generalizing index before with
  | last free => rfl
  | @more text rest c pieces free delimits later ih =>
    have passed : (before ++ (⟨text, some c⟩ : Text.Piece).characters).map Text.spaceLineEnd =
        before.map Text.spaceLineEnd ++ (⟨text, some c⟩ : Text.Piece).spaced.characters := by
      simp [Text.Piece.characters, Text.Piece.spaced, Text.map_spaceLineEnd_eq_self free]
    rw [List.map_cons, ofPieces, ofPieces, List.map_cons, ← passed, ih]
    rfl

/-- Where line ends delimit, the fragments of a source are those of the spaced source. -/
theorem ofSource_spaced (settings : LexicalSettings) (source : List Char) :
    ofSource { settings with splitOnNewlines := false }.isDelimiter
        (source.map Text.spaceLineEnd) =
      (ofSource { settings with splitOnNewlines := true }.isDelimiter source).map spaced := by
  have isCut := Text.isCut_cut { settings with splitOnNewlines := true }.isDelimiter source
  rw [← ofPieces_eq_ofSource isCut, ← ofPieces_eq_ofSource isCut.spaced]
  exact ofPieces_spaced isCut 0 []

/-- A fragment and its spaced fragment have the same number, text and offsets. -/
theorem corresponds_spaced (fragment : Fragment) :
    fragment.Corresponds Position.SameOffset 0 fragment.spaced := by
  refine ⟨rfl, rfl, fun value rest opens => ?_⟩
  have bytes : Text.byteCount fragment.spaced.before = Text.byteCount fragment.before :=
    Text.byteCount_map_spaceLineEnd fragment.before
  simp only [Position.SameOffset, Position.offset_afterAll_start, Text.byteCount_append, bytes]

end Fragment

namespace Lexing

/-- Lexing a source of at most `2 ^ 32 - 2` characters with line ends as delimiters comes to the
same as lexing it without them after each line end was replaced by a space: the same tokens with
the same offsets, or the same error about the same fragment with the same offsets, and the same
counters. -/
theorem split_corresponds_spaced (settings : LexicalSettings) (source : String)
    (short : source.length ≤ UInt32.size - 2) :
    ∃ split plain,
      ofSource? { settings with splitOnNewlines := true } source = some split ∧
      ofSource? { settings with splitOnNewlines := false } (source.map Text.spaceLineEnd) =
        some plain ∧
      Corresponds Position.SameOffset 0 (split.result.map TokenSequence.toList)
        (plain.result.map TokenSequence.toList) ∧
      plain.tally = split.tally := by
  let splitting : LexicalSettings := { settings with splitOnNewlines := true }
  let joining : LexicalSettings := { settings with splitOnNewlines := false }
  let spaced : String := source.map Text.spaceLineEnd
  have strict : joining.strictOperators = splitting.strictOperators := rfl
  have detailed : joining.detailedMetrics = splitting.detailedMetrics := rfl
  have spacedText : spaced.toList = source.toList.map Text.spaceLineEnd := String.toList_map
  have spacedShort : spaced.length ≤ UInt32.size - 2 := by
    rw [String.length_map]
    exact short
  have fragments : List.Forall₂ (Fragment.Corresponds Position.SameOffset 0)
      (Fragment.ofSource splitting.isDelimiter source.toList)
      (Fragment.ofSource joining.isDelimiter spaced.toList) := by
    rw [spacedText, Fragment.ofSource_spaced, List.forall₂_map_right_iff, List.forall₂_same]
    exact fun fragment _ => fragment.corresponds_spaced
  have ends : Position.SameOffset (Position.start.afterAll source.toList)
      (Position.start.afterAll spaced.toList) := by
    rw [Position.SameOffset, Position.offset_afterAll_start, Position.offset_afterAll_start,
      spacedText, Text.byteCount_map_spaceLineEnd]
  obtain ⟨split, lexed, found⟩ := exists_result_eq splitting short
  obtain ⟨plain, relexed, refound⟩ := exists_result_eq joining spacedShort
  refine ⟨split, plain, lexed, relexed, ?_, ?_⟩
  · rw [found, refound]
    exact collect_corresponds strict ends (Fragment.Corresponds.filter_visible fragments) _
  · obtain ⟨outcome, runs, rfl⟩ := runs_of_ofSource? lexed
    obtain ⟨again, reruns, rfl⟩ := runs_of_ofSource? relexed
    have counted : again.tally = outcome.tally :=
      runs.tally_eq strict detailed reruns fragments rfl rfl
    exact counted

/-- The second line of this source ends in a fragment that is no token; its offsets are the same in
the spaced source, where it stands on the first line. -/
theorem split_corresponds_spaced_crlf :
    "a\r\n3.1".length ≤ UInt32.size - 2 ∧
      "a\r\n3.1".map Text.spaceLineEnd = "a  3.1" ∧
      ∃ split plain, ofSource? ⟨false, true, true, true⟩ "a\r\n3.1" = some split ∧
        ofSource? ⟨false, true, true, false⟩ "a  3.1" = some plain ∧
        split.result.map TokenSequence.toList =
          .error (.unrecognizedToken "3.1" 2 ⟨⟨3, 2, 1⟩, ⟨6, 2, 4⟩⟩) ∧
        Corresponds Position.SameOffset 0 (split.result.map TokenSequence.toList)
          (plain.result.map TokenSequence.toList) ∧
        plain.tally = split.tally := by
  have spaced : "a\r\n3.1".map Text.spaceLineEnd = "a  3.1" := by
    rw [← String.toList_inj, String.toList_map]
    decide
  refine ⟨by decide, spaced, ?_⟩
  obtain ⟨split, plain, lexed, relexed, alike, tallies⟩ :=
    split_corresponds_spaced ⟨false, true, true, true⟩ "a\r\n3.1" (by decide)
  rw [spaced] at relexed
  refine ⟨split, plain, lexed, relexed, ?_, alike, tallies⟩
  rw [result_eq lexed]
  rfl

end Lexing

end LexisFront
