import LexisFront.Proofs.Source.Lines

/-!
# The line index

The lines of a source come from cutting it at its newlines. An index finds them without cutting:
it keeps the byte offset at which each line begins and slices a line out of the source, up to the
newline before the next line begins. The two give the same lines, because the offset after a
newline is the number of bytes up to and including it, wherever characters of several bytes stand.

The main statement joins the index with the places that moving past a text counts. At every cut of
a source in two, the place after the first part has the number of a line that consists of what the
first part has since its last newline, as many characters as the column says, and of what the
second part has up to its first newline.
-/

namespace LexisFront

namespace Source

/-- The offsets after the newlines of a text that begins at an offset. -/
def newlineStops (offset : Nat) : List Char → List Nat
  | [] => []
  | c :: rest =>
    let next := offset + c.utf8Size
    if c = '\n' then next :: newlineStops next rest else newlineStops next rest

/-- The offsets at which the lines of a source begin. -/
def lineStarts (source : String) : List Nat :=
  0 :: newlineStops 0 source.toList

/-- The stretch of a source from the offset with a number up to the byte before the next offset,
or up to the end after the last one. -/
def sliceFrom? (source : String) (starts : List Nat) (index : Nat) : Option String :=
  match starts[index]? with
  | none => none
  | some start =>
    let stop := match starts[index + 1]? with
      | none => source.utf8ByteSize
      | some next => next - 1
    Span.slice? ⟨⟨start, 0, 0⟩, ⟨stop, 0, 0⟩⟩ source

/-- The line with a number, counted from one, by the offset at which it begins. -/
def indexedLine? (source : String) : Nat → Option String
  | 0 => none
  | index + 1 => sliceFrom? source (lineStarts source) index

/-- Up to a first newline there are only bytes to count. -/
theorem newlineStops_append {text : List Char} (free : '\n' ∉ text) (offset : Nat)
    (rest : List Char) :
    newlineStops offset (text ++ rest) = newlineStops (offset + Text.byteCount text) rest := by
  induction text generalizing offset with
  | nil => rfl
  | cons c text ih =>
    have other : c ≠ '\n' := fun newline => free (newline ▸ List.mem_cons_self)
    have later : '\n' ∉ text := fun member => free (List.mem_cons_of_mem c member)
    rw [List.cons_append, newlineStops, if_neg other, ih later, Text.byteCount_cons,
      Nat.add_assoc]

/-- A newline is one stop. -/
theorem newlineStops_newline (offset : Nat) (rest : List Char) :
    newlineStops offset ('\n' :: rest) = (offset + 1) :: newlineStops (offset + 1) rest := rfl

/-- There is one stop for each newline. -/
theorem length_newlineStops (offset : Nat) (text : List Char) :
    (newlineStops offset text).length = text.count '\n' := by
  induction text generalizing offset with
  | nil => rfl
  | cons c text ih =>
    rw [newlineStops, List.count_cons]
    by_cases newline : c = '\n'
    · simp [newline, ih]
    · simp [newline, ih]

/-- Slicing between the offsets of the lines of a text, which may follow another one, gives the
pieces of the text between its newlines. -/
theorem sliceFrom?_eq {text : List Char} {pieces : List Text.Piece}
    (isCut : Text.IsCut (· == '\n') text pieces) (before : List Char) (index : Nat) :
    sliceFrom? (String.ofList (before ++ text))
        (Text.byteCount before :: newlineStops (Text.byteCount before) text) index =
      (pieces[index]?).map fun piece => String.ofList piece.text := by
  have newlineFree {text : List Char} (free : ∀ c ∈ text, (c == '\n') = false) : '\n' ∉ text :=
    fun member => absurd (free '\n' member) (by decide)
  -- A line that was passed moves to `before`, so that the offsets of the others stay the same.
  induction isCut generalizing before index with
  | @last text free =>
    have stops : newlineStops (Text.byteCount before) text = [] := by
      rw [← List.append_nil text, newlineStops_append (newlineFree free)]
      rfl
    rw [stops]
    cases index with
    | zero =>
      have size : (String.ofList (before ++ text)).utf8ByteSize =
          Text.byteCount before + Text.byteCount text := by
        rw [← Text.byteCount_toList, String.toList_ofList, Text.byteCount_append]
      have whole : before ++ text = before ++ text ++ [] := (List.append_nil _).symm
      simp only [sliceFrom?, List.getElem?_cons_zero, List.getElem?_cons_succ, List.getElem?_nil,
        Option.map_some]
      rw [size, whole]
      exact Span.slice?_of_offset [] rfl rfl
    | succ index => rfl
  | @more text rest c pieces free delimits later ih =>
    obtain rfl : c = '\n' := beq_iff_eq.1 delimits
    have next : Text.byteCount (before ++ text ++ ['\n']) =
        Text.byteCount before + Text.byteCount text + 1 := by
      rw [Text.byteCount_append, Text.byteCount_append]
      rfl
    have whole : before ++ (text ++ '\n' :: rest) = before ++ text ++ ['\n'] ++ rest := by simp
    have stops : newlineStops (Text.byteCount before) (text ++ '\n' :: rest) =
        Text.byteCount (before ++ text ++ ['\n']) ::
          newlineStops (Text.byteCount (before ++ text ++ ['\n'])) rest := by
      rw [newlineStops_append (newlineFree free), newlineStops_newline, next]
    cases index with
    | zero =>
      have parts : before ++ (text ++ '\n' :: rest) = before ++ text ++ '\n' :: rest := by simp
      simp only [sliceFrom?, stops, List.getElem?_cons_zero, List.getElem?_cons_succ,
        Option.map_some, next, Nat.add_sub_cancel]
      rw [parts]
      exact Span.slice?_of_offset ('\n' :: rest) rfl rfl
    | succ index =>
      have found := ih (before ++ text ++ ['\n']) index
      rw [← whole] at found
      rw [stops, List.getElem?_cons_succ, ← found]
      rfl

/-- The index gives the lines of a source. -/
theorem indexedLine?_eq (source : String) (number : Nat) :
    indexedLine? source number = line? source number := by
  cases number with
  | zero => rfl
  | succ index =>
    have found := sliceFrom?_eq (Text.isCut_cut (· == '\n') source.toList) [] index
    rw [List.nil_append, String.ofList_toList] at found
    rw [indexedLine?, line?, lines, List.getElem?_map]
    exact found

/-- The index has one offset for each line. -/
theorem length_lineStarts (source : String) :
    (lineStarts source).length = (lines source).length := by
  rw [lineStarts, List.length_cons, length_newlineStops, lines_eq, List.length_map,
    Text.length_splitOnP]
  rfl

/-- The last place of a source is on its last line. -/
theorem length_lines (source : String) :
    (lines source).length = (Position.start.afterAll source.toList).line := by
  have first : Position.start.line = 1 := rfl
  rw [Position.line_afterAll, first, lines_eq, List.length_map, Text.length_splitOnP, List.count,
    Nat.add_comm]

/-- A line of a source holds a place between the two parts of the source. -/
structure Holds (source : String) (before after : List Char) (place : Position) (line : String) :
    Prop where
  /-- The offset of the place counts the bytes of the first part. -/
  offset_eq : place.offset = (String.ofList before).utf8ByteSize
  /-- The line is the one with the number of the place. -/
  line_eq : line? source place.line = some line
  /-- The index finds the same line by its offset. -/
  indexed_eq : indexedLine? source place.line = some line
  /-- The column of the place counts the first part since its last newline. -/
  column_eq : place.column - 1 = (Text.lastLine before).length
  /-- The line begins with what the first part has since its last newline. -/
  take_eq : line.toList.take (place.column - 1) = Text.lastLine before
  /-- The line goes on with what the second part has up to its first newline. -/
  drop_eq : line.toList.drop (place.column - 1) = Text.firstLine after
  /-- The line ends there. -/
  newline_notMem : '\n' ∉ line.toList

/-- Around a place there is no newline on its line. -/
theorem newline_notMem_line (before after : List Char) :
    '\n' ∉ Text.lastLine before ++ Text.firstLine after := by
  intro member
  rcases List.mem_append.1 member with earlier | later
  · exact Text.newline_notMem_lastLine before earlier
  · exact Text.newline_notMem_firstLine after later

/-- A source of at most `2 ^ 32 - 2` characters has a line for every place in it: wherever the
source is cut in two, moving past the first part reaches a place whose line consists of what stands
around the cut between two newlines, and the place splits that line at the cut. The number of lines
is the line of the last place. -/
theorem exists_line_of_place (source : String) (short : source.length ≤ UInt32.size - 2)
    (before after : List Char) (parts : source.toList = before ++ after) :
    ∃ place last line, Position.start.advanceAll? before = some place ∧
      Position.start.advanceAll? source.toList = some last ∧
      Holds source before after place line ∧
      (lines source).length = last.line ∧ (lineStarts source).length = last.line := by
  let place := Position.start.afterAll before
  let line := String.ofList (Text.lastLine before ++ Text.firstLine after)
  have within : before.length ≤ UInt32.size - 2 := by
    rw [← String.length_toList, parts, List.length_append] at short
    omega
  have whole : source = String.ofList (before ++ after) := by
    rw [← parts, String.ofList_toList]
  have found : line? source place.line = some line := by
    rw [whole]
    exact line?_afterAll before after
  have column : place.column - 1 = (Text.lastLine before).length := by
    have counted : place.column = (Text.lastLine before).length + 1 :=
      Position.column_afterAll_start before
    omega
  have text : line.toList = Text.lastLine before ++ Text.firstLine after := String.toList_ofList
  refine ⟨place, Position.start.afterAll source.toList, line, Position.advanceAll?_start within,
    Position.advanceAll?_start short, ?_, length_lines source, ?_⟩
  · constructor
    case offset_eq =>
      rw [← Text.byteCount_toList, String.toList_ofList]
      exact Position.offset_afterAll_start before
    case line_eq => exact found
    case indexed_eq => rw [indexedLine?_eq, found]
    case column_eq => exact column
    case take_eq => rw [text, column, List.take_left]
    case drop_eq => rw [text, column, List.drop_left]
    case newline_notMem =>
      rw [text]
      exact newline_notMem_line before after
  · rw [length_lineStarts, length_lines]

/-- The place before the last letter of this source is the third one of the second line, five bytes
into the source, and the last line is empty. -/
theorem exists_line_of_place_accent :
    "a\néxy\n".length ≤ UInt32.size - 2 ∧
      "a\néxy\n".toList = ['a', '\n', 'é', 'x'] ++ ['y', '\n'] ∧
      Holds "a\néxy\n" ['a', '\n', 'é', 'x'] ['y', '\n'] ⟨5, 2, 3⟩ "éxy" ∧
      (lines "a\néxy\n").length = 3 := by
  refine ⟨by decide, by decide, ?_⟩
  obtain ⟨place, last, line, reached, ended, holds, counted, -⟩ :=
    exists_line_of_place "a\néxy\n" (by decide) ['a', '\n', 'é', 'x'] ['y', '\n'] (by decide)
  obtain rfl : ⟨5, 2, 3⟩ = place := Option.some.inj reached
  obtain rfl : ⟨7, 3, 1⟩ = last := Option.some.inj ended
  have shown : line? "a\néxy\n" 2 = some "éxy" := by decide
  obtain rfl : "éxy" = line := Option.some.inj (shown.symm.trans holds.line_eq)
  exact ⟨holds, counted⟩

end Source

end LexisFront
