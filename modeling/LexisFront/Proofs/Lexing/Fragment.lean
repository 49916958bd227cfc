import LexisFront.Proofs.Source.Advance
import LexisFront.Text.Piece

/-!
# The fragments of a source

The lexer walks over pieces, each of which keeps the delimiter that ended it. A statement about a
source speaks of its fragments instead: the stretches between delimiters in the sense of
`List.splitOnP`, numbered from zero, each with the whole text before it. `Text.IsCut` says of a
list of pieces that it comes from cutting a text, and is the induction along which the two views
are shown to agree.
-/

namespace LexisFront

namespace Text

/-- Pieces that come from cutting a text at its delimiters. -/
inductive IsCut (isDelimiter : Char → Bool) : List Char → List Piece → Prop
  /-- A text without delimiters is one piece. -/
  | last {text : List Char} (free : ∀ c ∈ text, isDelimiter c = false) :
      IsCut isDelimiter text [⟨text, none⟩]
  /-- The first delimiter ends the first piece. -/
  | more {text rest : List Char} {c : Char} {pieces : List Piece}
      (free : ∀ c ∈ text, isDelimiter c = false) (delimits : isDelimiter c = true)
      (later : IsCut isDelimiter rest pieces) :
      IsCut isDelimiter (text ++ c :: rest) (⟨text, some c⟩ :: pieces)

variable {isDelimiter : Char → Bool}

/-- Cutting what is left of a text puts the pieces of the open piece and the rest after the
finished ones. -/
theorem exists_isCut_cutFrom (current : List Char) (finished : List Piece) (text : List Char)
    (free : ∀ c ∈ current, isDelimiter c = false) :
    ∃ pieces, cutFrom isDelimiter current finished text = finished.reverse ++ pieces ∧
      IsCut isDelimiter (current.reverse ++ text) pieces := by
  induction text generalizing current finished with
  | nil =>
    refine ⟨[⟨current.reverse, none⟩], by simp [cutFrom], ?_⟩
    rw [List.append_nil]
    exact .last fun c member => free c (List.mem_reverse.1 member)
  | cons c rest ih =>
    by_cases delimits : isDelimiter c = true
    · obtain ⟨pieces, split, later⟩ :=
        ih [] (⟨current.reverse, some c⟩ :: finished) (by simp)
      refine ⟨⟨current.reverse, some c⟩ :: pieces, ?_, ?_⟩
      · rw [cutFrom, if_pos delimits, split]
        simp
      · exact .more (fun c member => free c (List.mem_reverse.1 member)) delimits later
    · obtain ⟨pieces, split, later⟩ := ih (c :: current) finished (by
        intro other member
        rcases List.mem_cons.1 member with rfl | member
        · simpa using delimits
        · exact free other member)
      refine ⟨pieces, ?_, ?_⟩
      · rw [cutFrom, if_neg delimits, split]
      · simpa using later

/-- Cutting a text gives pieces that come from cutting it. -/
theorem isCut_cut (isDelimiter : Char → Bool) (text : List Char) :
    IsCut isDelimiter text (cut isDelimiter text) := by
  obtain ⟨pieces, split, isCut⟩ :=
    @exists_isCut_cutFrom isDelimiter [] [] text (by simp)
  rw [cut, split]
  exact isCut

end Text

/-- A stretch of a source between delimiters. -/
structure Fragment where
  /-- The number of the fragment, counted from zero. -/
  index : Nat
  /-- The text of the source before the fragment. -/
  before : List Char
  /-- The characters of the fragment. -/
  text : List Char
deriving DecidableEq, Repr

namespace Fragment

/-- The span of a text that begins where the fragment begins. -/
def spanOf (fragment : Fragment) (value : List Char) : Span :=
  ⟨Position.start.afterAll fragment.before, Position.start.afterAll (fragment.before ++ value)⟩

/-- The span of the whole fragment. -/
def span (fragment : Fragment) : Span :=
  fragment.spanOf fragment.text

/-- Numbers the stretches of a source from a place on; between two stretches stands one
character. -/
def number (source : List Char) (index start : Nat) : List (List Char) → List Fragment
  | [] => []
  | text :: rest =>
    ⟨index, source.take start, text⟩ ::
      number source (index + 1) (start + text.length + 1) rest

/-- The fragments of a source between its delimiters. -/
def ofSource (isDelimiter : Char → Bool) (source : List Char) : List Fragment :=
  number source 0 0 (source.splitOnP isDelimiter)

/-- The fragments of pieces that follow a text. -/
def ofPieces (index : Nat) (before : List Char) : List Text.Piece → List Fragment
  | [] => []
  | piece :: rest =>
    ⟨index, before, piece.text⟩ :: ofPieces (index + 1) (before ++ piece.characters) rest

variable {isDelimiter : Char → Bool}

/-- The pieces of a text after another are the numbered stretches of the two together. -/
theorem ofPieces_eq_number {rest : List Char} {pieces : List Text.Piece}
    (isCut : Text.IsCut isDelimiter rest pieces) (index : Nat) (before : List Char) :
    ofPieces index before pieces =
      number (before ++ rest) index before.length (rest.splitOnP isDelimiter) := by
  induction isCut generalizing index before with
  | last free =>
    rw [List.splitOnP_eq_singleton free]
    simp [ofPieces, number]
  | @more text rest c pieces free delimits later ih =>
    have whole : before ++ (text ++ c :: rest) = before ++ (text ++ [c]) ++ rest := by simp
    have length : (before ++ (text ++ [c])).length = before.length + text.length + 1 := by
      simp only [List.length_append, List.length_singleton]
      omega
    rw [List.splitOnP_append_cons_of_forall_mem free c delimits, ofPieces, number,
      List.take_left, ← length, whole]
    exact congrArg _ (ih (index + 1) (before ++ (text ++ [c])))

/-- Pieces that come from cutting a source are its fragments. -/
theorem ofPieces_eq_ofSource {source : List Char} {pieces : List Text.Piece}
    (isCut : Text.IsCut isDelimiter source pieces) :
    ofPieces 0 [] pieces = ofSource isDelimiter source :=
  ofPieces_eq_number isCut 0 []

/-- The pieces of a source are its fragments. -/
theorem ofPieces_cut (isDelimiter : Char → Bool) (source : List Char) :
    ofPieces 0 [] (Text.cut isDelimiter source) = ofSource isDelimiter source :=
  ofPieces_eq_ofSource (Text.isCut_cut isDelimiter source)

/-- A numbered stretch has the text of its number. -/
theorem getElem?_index_of_mem_number {source : List Char} {texts : List (List Char)}
    {fragment : Fragment} {index start : Nat}
    (member : fragment ∈ number source index start texts) :
    ∃ offset, fragment.index = index + offset ∧ texts[offset]? = some fragment.text := by
  induction texts generalizing index start with
  | nil => simp [number] at member
  | cons text rest ih =>
    rcases List.mem_cons.1 member with rfl | member
    · exact ⟨0, rfl, rfl⟩
    · obtain ⟨offset, same, found⟩ := ih member
      exact ⟨offset + 1, by omega, found⟩

/-- A fragment is the piece of its source with its number. -/
theorem getElem?_index {source : List Char} {fragment : Fragment}
    (member : fragment ∈ ofSource isDelimiter source) :
    (source.splitOnP isDelimiter)[fragment.index]? = some fragment.text := by
  obtain ⟨offset, same, found⟩ := getElem?_index_of_mem_number member
  rw [same, Nat.zero_add]
  exact found

/-- A numbered stretch has as many stretches before it as its number says. -/
theorem index_eq_of_number_eq {source : List Char} {texts : List (List Char)} {index start : Nat}
    {earlier later : List Fragment} {fragment : Fragment}
    (split : number source index start texts = earlier ++ fragment :: later) :
    fragment.index = index + earlier.length := by
  induction texts generalizing index start earlier with
  | nil => simp [number] at split
  | cons text rest ih =>
    cases earlier with
    | nil =>
      rw [← (List.cons.inj split).1]
      rfl
    | cons first others =>
      have found := ih (List.cons.inj split).2
      rw [found, List.length_cons]
      omega

/-- A fragment has as many fragments before it as its number says. -/
theorem index_eq_length {source : List Char} {earlier later : List Fragment} {fragment : Fragment}
    (split : ofSource isDelimiter source = earlier ++ fragment :: later) :
    fragment.index = earlier.length := by
  have found := index_eq_of_number_eq split
  rw [Nat.zero_add] at found
  exact found

/-- A fragment of pieces stands in the text of the pieces, after the text before them. -/
theorem exists_before_of_mem_ofPieces {rest : List Char} {pieces : List Text.Piece}
    (isCut : Text.IsCut isDelimiter rest pieces) {index : Nat} {before : List Char}
    {fragment : Fragment} (member : fragment ∈ ofPieces index before pieces) :
    ∃ middle after, fragment.before = before ++ middle ∧
      rest = middle ++ fragment.text ++ after := by
  induction isCut generalizing index before with
  | @last text free =>
    obtain rfl := List.mem_singleton.1 member
    exact ⟨[], [], by simp, by simp⟩
  | @more text rest c pieces free delimits later ih =>
    rcases List.mem_cons.1 member with rfl | member
    · exact ⟨[], c :: rest, by simp, by simp⟩
    · obtain ⟨middle, after, placed, split⟩ := ih member
      refine ⟨text ++ [c] ++ middle, after, ?_, ?_⟩
      · simpa [Text.Piece.characters] using placed
      · simp [split]

/-- A fragment stands in its source after the text before it. -/
theorem exists_after_of_mem {source : List Char} {fragment : Fragment}
    (member : fragment ∈ ofSource isDelimiter source) :
    ∃ after, source = fragment.before ++ fragment.text ++ after := by
  rw [← ofPieces_cut] at member
  obtain ⟨middle, after, placed, split⟩ :=
    exists_before_of_mem_ofPieces (Text.isCut_cut isDelimiter source) member
  exact ⟨after, by rw [placed, List.nil_append, split]⟩

/-- One fragment ends before another begins, with a character between them. -/
def Precedes (first second : Fragment) : Prop :=
  ∃ c middle, second.before = first.before ++ first.text ++ c :: middle

/-- The fragments of pieces stand one after the other. -/
theorem pairwise_precedes_ofPieces {rest : List Char} {pieces : List Text.Piece}
    (isCut : Text.IsCut isDelimiter rest pieces) (index : Nat) (before : List Char) :
    (ofPieces index before pieces).Pairwise Precedes := by
  induction isCut generalizing index before with
  | last free => exact List.pairwise_singleton _ _
  | @more text rest c pieces free delimits later ih =>
    refine List.pairwise_cons.2 ⟨fun fragment member => ?_, ih _ _⟩
    obtain ⟨middle, after, placed, split⟩ := exists_before_of_mem_ofPieces later member
    exact ⟨c, middle, by simpa [Text.Piece.characters] using placed⟩

/-- The fragments of a source stand one after the other. -/
theorem pairwise_precedes (isDelimiter : Char → Bool) (source : List Char) :
    (ofSource isDelimiter source).Pairwise Precedes := by
  rw [← ofPieces_cut]
  exact pairwise_precedes_ofPieces (Text.isCut_cut isDelimiter source) 0 []

end Fragment

end LexisFront
