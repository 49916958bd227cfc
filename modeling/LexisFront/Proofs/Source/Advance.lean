import LexisFront.Source.Span

/-!
# Positions after a text

Moving past a text is checked character by character, because the counters of a position have
fixed widths. The unchecked move has a value for every text, so statements about places are made
with it, and one bound connects the two: a source of at most `2 ^ 32 - 2` characters keeps every
counter in its range, from the first character to the last.

A slice looks at byte offsets only. The offset after a text grows by the bytes of the text, so
the span between the places before and after a stretch of a source slices out that stretch.
-/

namespace LexisFront

namespace Text

/-- The number of bytes that encode a text. -/
def byteCount : List Char → Nat
  | [] => 0
  | c :: rest => c.utf8Size + byteCount rest

/-- No bytes encode the empty text. -/
@[simp]
theorem byteCount_nil : byteCount [] = 0 := rfl

/-- The bytes of the first character come before those of the others. -/
@[simp]
theorem byteCount_cons (c : Char) (text : List Char) :
    byteCount (c :: text) = c.utf8Size + byteCount text := rfl

/-- The bytes of two texts add up. -/
@[simp]
theorem byteCount_append (left right : List Char) :
    byteCount (left ++ right) = byteCount left + byteCount right := by
  induction left with
  | nil => exact (Nat.zero_add _).symm
  | cons c left ih => rw [List.cons_append, byteCount_cons, byteCount_cons, ih, Nat.add_assoc]

/-- A text has at least one byte per character. -/
theorem length_le_byteCount (text : List Char) : text.length ≤ byteCount text := by
  induction text with
  | nil => exact Nat.le_refl 0
  | cons c text ih =>
    have positive := c.utf8Size_pos
    rw [List.length_cons, byteCount_cons]
    omega

/-- The bytes of a text are those of its characters. -/
theorem utf8ByteSize_ofList (text : List Char) :
    (String.ofList text).utf8ByteSize = byteCount text := by
  induction text with
  | nil => rfl
  | cons c text ih =>
    rw [← List.singleton_append, String.ofList_append, String.utf8ByteSize_append, ih,
      byteCount_append]
    simp

/-- The bytes of a source are those of its characters. -/
theorem byteCount_toList (source : String) : byteCount source.toList = source.utf8ByteSize := by
  rw [← utf8ByteSize_ofList, String.ofList_toList]

end Text

namespace Position

/-- The place after a text, whatever the range of the counters. -/
def afterAll (position : Position) (text : List Char) : Position :=
  text.foldl after position

/-- The place after no text is the place itself. -/
@[simp]
theorem afterAll_nil (position : Position) : position.afterAll [] = position := rfl

/-- The place after a text is counted from the place after its first character. -/
@[simp]
theorem afterAll_cons (position : Position) (c : Char) (text : List Char) :
    position.afterAll (c :: text) = (position.after c).afterAll text := rfl

/-- The place after two texts is counted from the place after the first one. -/
theorem afterAll_append (position : Position) (left right : List Char) :
    position.afterAll (left ++ right) = (position.afterAll left).afterAll right :=
  List.foldl_append

/-- A character moves the offset by its bytes; the newline has one. -/
theorem offset_after (position : Position) (c : Char) :
    (position.after c).offset = position.offset + c.utf8Size := by
  by_cases newline : c = '\n'
  · subst newline
    rfl
  · simp [after, newline]

/-- A text moves the offset by its bytes. -/
theorem offset_afterAll (position : Position) (text : List Char) :
    (position.afterAll text).offset = position.offset + Text.byteCount text := by
  induction text generalizing position with
  | nil => rfl
  | cons c text ih =>
    rw [afterAll_cons, ih, offset_after, Text.byteCount_cons]
    omega

/-- From the start the offset after a text is the number of its bytes. -/
theorem offset_afterAll_start (text : List Char) :
    (start.afterAll text).offset = Text.byteCount text := by
  have first : start.offset = 0 := rfl
  rw [offset_afterAll, first, Nat.zero_add]

/-- The checked move past a text gets where the unchecked one does, if it gets anywhere. -/
theorem eq_afterAll_of_advanceAll? {position stop : Position} {text : List Char}
    (moved : position.advanceAll? text = some stop) : stop = position.afterAll text := by
  induction text generalizing position with
  | nil => exact (Option.some.inj moved).symm
  | cons c text ih =>
    rw [advanceAll?_cons] at moved
    obtain ⟨next, first, later⟩ := Option.bind_eq_some_iff.1 moved
    rw [advance?] at first
    split at first
    · rw [afterAll_cons, Option.some.inj first]
      exact ih later
    · contradiction

/-- A checked move past a text, from the place after another, gets to the place after both. -/
theorem eq_afterAll_append {origin position stop : Position} {before text : List Char}
    (placed : position = origin.afterAll before)
    (moved : position.advanceAll? text = some stop) : stop = origin.afterAll (before ++ text) := by
  rw [afterAll_append, ← placed]
  exact eq_afterAll_of_advanceAll? moved

/-- A checked move past two texts passes the first one and goes on from there. -/
theorem advanceAll?_of_append {position stop : Position} {left right : List Char}
    (moved : position.advanceAll? (left ++ right) = some stop) :
    position.advanceAll? left = some (position.afterAll left) ∧
      (position.afterAll left).advanceAll? right = some stop := by
  rw [advanceAll?_append] at moved
  obtain ⟨middle, first, later⟩ := Option.bind_eq_some_iff.1 moved
  obtain rfl := eq_afterAll_of_advanceAll? first
  exact ⟨first, later⟩

/-- The counters can pass that many more characters, whichever these are. -/
structure HasRoom (position : Position) (count : Nat) : Prop where
  /-- The first column is one, so that a newline does not move the column up. -/
  column_pos : 1 ≤ position.column
  /-- A character has at most four bytes. -/
  offset_le : position.offset + 4 * count ≤ maxOffset
  /-- A character begins at most one line. -/
  line_le : position.line + count ≤ maxLine
  /-- A character moves by at most one column. -/
  column_le : position.column + count ≤ maxColumn

/-- A source of at most `2 ^ 32 - 2` characters fits between the start and the last place. -/
theorem hasRoom_start (count : Nat) (short : count ≤ UInt32.size - 2) : start.HasRoom count := by
  have narrow : UInt32.size = 4294967296 := rfl
  have wide : UInt64.size = 18446744073709551616 := rfl
  constructor <;> simp only [start, maxOffset, maxLine, maxColumn] <;> omega

/-- Passing one character uses the room of one character. -/
theorem HasRoom.after {position : Position} {count : Nat} (room : position.HasRoom (count + 1))
    (c : Char) : (position.after c).HasRoom count := by
  obtain ⟨columnPositive, offsetBound, lineBound, columnBound⟩ := room
  have bytes := c.utf8Size_le_four
  by_cases newline : c = '\n'
  · constructor <;> simp only [Position.after, newline, ↓reduceIte] <;> omega
  · constructor <;> simp only [Position.after, newline, ↓reduceIte] <;> omega

/-- A position with room is in range. -/
theorem HasRoom.inRange {position : Position} {count : Nat} (room : position.HasRoom count) :
    position.InRange := by
  obtain ⟨columnPositive, offsetBound, lineBound, columnBound⟩ := room
  exact ⟨by omega, by omega, by omega⟩

/-- The checked move past a text is the unchecked one when there is room for the text. -/
theorem HasRoom.advanceAll? {position : Position} {text : List Char}
    (room : position.HasRoom text.length) :
    position.advanceAll? text = some (position.afterAll text) := by
  induction text generalizing position with
  | nil => rfl
  | cons c text ih =>
    have later : (position.after c).HasRoom text.length := room.after c
    rw [advanceAll?_cons, advance?, if_pos later.inRange, Option.bind_some, ih later]
    rfl

/-- Moving from the start past a text of bounded length never leaves the range. -/
theorem advanceAll?_start {text : List Char} (short : text.length ≤ UInt32.size - 2) :
    start.advanceAll? text = some (start.afterAll text) :=
  (hasRoom_start text.length short).advanceAll?

end Position

/-- Splitting off the bytes of a text that stands in front leaves what follows it. -/
theorem splitBytes?_append (passed left right : List Char) :
    splitBytes? passed (left ++ right) (Text.byteCount left) =
      some (passed.reverse ++ left, right) := by
  induction left generalizing passed with
  | nil => simp [splitBytes?]
  | cons c left ih =>
    have positive := c.utf8Size_pos
    obtain ⟨count, bytes⟩ : ∃ count, Text.byteCount (c :: left) = count + 1 :=
      ⟨c.utf8Size + Text.byteCount left - 1, by rw [Text.byteCount_cons]; omega⟩
    have enough : c.utf8Size ≤ count + 1 := by
      rw [← bytes, Text.byteCount_cons]
      omega
    have remaining : count + 1 - c.utf8Size = Text.byteCount left := by
      rw [← bytes, Text.byteCount_cons]
      omega
    rw [bytes, List.cons_append, splitBytes?, if_pos enough, remaining, ih]
    simp

namespace Span

/-- The span from a place over a text does not run backwards. -/
theorem between?_afterAll (position : Position) (text : List Char) :
    between? position (position.afterAll text) = some ⟨position, position.afterAll text⟩ := by
  have forward : position.offset ≤ (position.afterAll text).offset := by
    rw [Position.offset_afterAll]
    omega
  rw [between?, if_pos forward]

/-- A span over at least one character is not empty. -/
theorem isEmpty_afterAll {position : Position} {text : List Char} (nonempty : text ≠ []) :
    isEmpty ⟨position, position.afterAll text⟩ = false := by
  have bytes := Text.length_le_byteCount text
  have positive := List.length_pos_iff.2 nonempty
  simp only [isEmpty, beq_eq_false_iff_ne, Position.offset_afterAll]
  omega

/-- A span slices out the stretch of a source between its two offsets. -/
theorem slice?_of_offset {span : Span} {before covered : List Char} (after : List Char)
    (first : span.start.offset = Text.byteCount before)
    (last : span.stop.offset = Text.byteCount before + Text.byteCount covered) :
    span.slice? (String.ofList (before ++ covered ++ after)) = some (String.ofList covered) := by
  have forward : Text.byteCount before ≤ Text.byteCount before + Text.byteCount covered :=
    Nat.le_add_right _ _
  simp only [slice?, first, last, if_pos forward, String.toList_ofList, List.append_assoc,
    splitBytes?_append, Nat.add_sub_cancel_left, List.reverse_nil, List.nil_append,
    Option.map_some]

/-- The span between the places before and after a stretch of a source covers that stretch. -/
theorem slice?_afterAll (before covered after : List Char) :
    slice? ⟨Position.start.afterAll before, Position.start.afterAll (before ++ covered)⟩
      (String.ofList (before ++ covered ++ after)) = some (String.ofList covered) := by
  have last : (Position.start.afterAll (before ++ covered)).offset =
      Text.byteCount before + Text.byteCount covered := by
    rw [Position.offset_afterAll_start, Text.byteCount_append]
  exact slice?_of_offset after (Position.offset_afterAll_start before) last

end Span

end LexisFront
