import LexisFront.Source.Span
import LexisFront.Text.Piece

/-!
# Excerpts of source text

An excerpt shows a message with the line it is about and marks the place under that line. The
lines of a source are what stands between its newlines, so a source always has a last line,
which is empty after a final newline.
-/

namespace LexisFront.Source

/-- The lines of a source, without their newlines. -/
def lines (source : String) : List String :=
  (Text.cut (· == '\n') source.toList).map fun piece => String.ofList piece.text

/-- The line with a number, counted from one. -/
def line? (source : String) : Nat → Option String
  | 0 => none
  | index + 1 => (lines source)[index]?

/-- The number of lines that a reader counts: a newline ends a line, and a last line without
one counts when it has a character. -/
def countLines (source : String) : Nat :=
  let (ended, isOpen) := source.foldl
    (fun (state : Nat × Bool) c => if c = '\n' then (state.1 + 1, false) else (state.1, true))
    (0, false)
  if isOpen then ended + 1 else ended

/-- The number of marks under the first line of a span, before at least one is shown. A span
over several lines is marked to one past the end of its first line, and has no number of marks
when it starts beyond that place. -/
def markWidth? (span : Span) (line : String) : Option Nat :=
  if span.start.line = span.stop.line then
    some (span.stop.column - span.start.column)
  else if span.start.column ≤ line.length + 1 then
    some (line.length + 1 - span.start.column)
  else
    none

/-- A text of one repeated character. -/
def repeated (c : Char) (count : Nat) : String :=
  String.ofList (List.replicate count c)

/-- A message with the line of a source that it is about and marks under the place. -/
def excerpt? (source : String) (span : Span) (message : String) : Option String :=
  let heading := s!"error: {message}\n  --> {span.start.render}\n"
  match line? source span.start.line with
  | none => some heading
  | some line =>
    (markWidth? span line).map fun width =>
      let number := toString span.start.line
      let gutter := repeated ' ' number.length
      let padding := repeated ' ' (span.start.column - 1)
      let marks := repeated '^' (max width 1)
      heading ++ s!"{gutter} |\n" ++ s!"{number} | {line}\n" ++
        s!"{gutter} | {padding}{marks}\n"

end LexisFront.Source
