import LexisFront.Proofs.Source.Lines

/-!
# Marks under a place

The number of marks in an excerpt is computed from lines and columns alone. For a span that goes
from one place of a source to another it comes out as the number of characters that the span
covers before their first newline, both when the span ends on its first line and when it goes on
below. So the marks stand under these characters, or under the place after the line when there
are none.
-/

namespace LexisFront.Source

/-- An excerpt with a line under its heading and a number of marks from the column of a span on. -/
def marked (span : Span) (message line : String) (width : Nat) : String :=
  let number := toString span.start.line
  let gutter := repeated ' ' number.length
  let padding := repeated ' ' (span.start.column - 1)
  let marks := repeated '^' width
  s!"error: {message}\n  --> {span.start.render}\n" ++ s!"{gutter} |\n" ++
    s!"{number} | {line}\n" ++ s!"{gutter} | {padding}{marks}\n"

/-- A span over a stretch of a source; one that covers nothing stands at the end. -/
def IsPlace (source : String) (span : Span) : Prop :=
  ∃ before covered after, source.toList = before ++ covered ++ after ∧
    span = ⟨Position.start.afterAll before, Position.start.afterAll (before ++ covered)⟩ ∧
    (covered = [] → after = [])

/-- The excerpt for a span shows its first line and marks what the span covers of it. -/
structure Marks (source : String) (span : Span) (message line covered : String) (width : Nat) :
    Prop where
  /-- The line is the one that the span begins on. -/
  line_eq : line? source span.start.line = some line
  /-- The covered text is what the span slices out of the source. -/
  covered_eq : span.slice? source = some covered
  /-- Columns begin with one. -/
  column_pos : 1 ≤ span.start.column
  /-- There is at least one mark. -/
  width_pos : 1 ≤ width
  /-- The excerpt shows the line and as many marks. -/
  excerpt_eq : excerpt? source span message = some (marked span message line width)
  /-- Marks stand under the covered text up to its first newline. -/
  marked_eq : Text.firstLine covered.toList ≠ [] →
    width = (Text.firstLine covered.toList).length ∧
      (line.toList.drop (span.start.column - 1)).take width = Text.firstLine covered.toList
  /-- Where there is no such text, one mark stands after the line. -/
  blank_eq : Text.firstLine covered.toList = [] →
    width = 1 ∧ span.start.column = line.length + 1

/-- The marks under a covered stretch are as many as it has characters before its first newline. -/
theorem markWidth?_afterAll (before covered after : List Char) :
    markWidth? ⟨Position.start.afterAll before, Position.start.afterAll (before ++ covered)⟩
      (String.ofList (Text.lastLine before ++ Text.firstLine (covered ++ after))) =
        some (Text.firstLine covered).length := by
  have lines : (Position.start.afterAll (before ++ covered)).line =
      (Position.start.afterAll before).line + covered.count '\n' := by
    rw [Position.afterAll_append, Position.line_afterAll]
  -- Columns are compared on one line; across lines the length of the first one takes over.
  by_cases crosses : '\n' ∈ covered
  · have below : (Position.start.afterAll before).line ≠
        (Position.start.afterAll (before ++ covered)).line := by
      have positive := List.count_pos_iff.2 crosses
      omega
    have length : (String.ofList
        (Text.lastLine before ++ Text.firstLine (covered ++ after))).length =
          (Text.lastLine before).length + (Text.firstLine covered).length := by
      rw [String.length_ofList, Text.firstLine_append, if_pos crosses]
      simp
    simp only [markWidth?, if_neg below, length, Position.column_afterAll_start]
    rw [if_pos (by omega)]
    congr 1
    omega
  · have beside : (Position.start.afterAll before).line =
        (Position.start.afterAll (before ++ covered)).line := by
      rw [lines, List.count_eq_zero.2 crosses, Nat.add_zero]
    simp only [markWidth?, if_pos beside, Position.column_afterAll_start,
      Text.lastLine_append before crosses, Text.firstLine_eq_self crosses, List.length_append]
    congr 1
    omega

/-- The excerpt for a span over a stretch of a source shows the line around its beginning. -/
theorem excerpt?_afterAll (before covered after : List Char) (message : String) :
    let span : Span :=
      ⟨Position.start.afterAll before, Position.start.afterAll (before ++ covered)⟩
    excerpt? (String.ofList (before ++ covered ++ after)) span message =
      some (marked span message
        (String.ofList (Text.lastLine before ++ Text.firstLine (covered ++ after)))
        (max (Text.firstLine covered).length 1)) := by
  intro span
  have line := line?_afterAll before (covered ++ after)
  rw [← List.append_assoc] at line
  rw [excerpt?, line]
  dsimp only
  rw [markWidth?_afterAll]
  rfl

/-- Every place of a source has an excerpt, which marks what the place covers. -/
theorem IsPlace.exists_marks {source : String} {span : Span} (place : IsPlace source span)
    (message : String) : ∃ line covered width, Marks source span message line covered width := by
  obtain ⟨before, covered, after, whole, rfl, ends⟩ := place
  obtain rfl : source = String.ofList (before ++ covered ++ after) := by
    rw [← whole, String.ofList_toList]
  have column := Position.column_afterAll_start before
  refine ⟨String.ofList (Text.lastLine before ++ Text.firstLine (covered ++ after)),
    String.ofList covered, max (Text.firstLine covered).length 1, ?_⟩
  constructor
  case line_eq =>
    rw [List.append_assoc]
    exact line?_afterAll before (covered ++ after)
  case covered_eq => exact Span.slice?_afterAll before covered after
  case column_pos =>
    rw [column]
    omega
  case width_pos => exact Nat.le_max_right _ _
  case excerpt_eq => exact excerpt?_afterAll before covered after message
  case marked_eq =>
    rw [String.toList_ofList]
    intro shown
    have positive := List.length_pos_iff.2 shown
    have width : max (Text.firstLine covered).length 1 = (Text.firstLine covered).length := by
      omega
    refine ⟨width, ?_⟩
    rw [width, column, Nat.add_sub_cancel, String.toList_ofList, List.drop_left,
      Text.firstLine_append, List.take_left]
  case blank_eq =>
    rw [String.toList_ofList]
    intro hidden
    have nothing : Text.firstLine (covered ++ after) = [] := by
      rw [Text.firstLine_append, hidden, List.nil_append]
      split
      · rfl
      · rename_i free
        rw [Text.firstLine_eq_self free] at hidden
        rw [ends hidden]
        rfl
    rw [hidden, nothing, List.append_nil, String.length_ofList]
    exact ⟨rfl, column⟩

end LexisFront.Source
