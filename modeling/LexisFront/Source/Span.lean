import LexisFront.Source.Position

/-!
# Spans of source text

A span runs from its start up to, but not including, its stop. Only the byte offsets decide
what a span covers; lines and columns are for people.
-/

namespace LexisFront

/-- A stretch of source text between two positions. -/
structure Span where
  /-- First place of the span. -/
  start : Position
  /-- First place after the span. -/
  stop : Position
deriving DecidableEq, Repr, Inhabited

namespace Span

/-- The span of an unknown place. -/
def zero : Span := ⟨Position.zero, Position.zero⟩

/-- The span between two positions, provided that it does not run backwards. -/
def between? (start stop : Position) : Option Span :=
  if start.offset ≤ stop.offset then some ⟨start, stop⟩ else none

/-- The span of width zero at a position. -/
def emptyAt (position : Position) : Span := ⟨position, position⟩

/-- The span of a text that begins at a position. -/
def covering? (start : Position) (text : List Char) : Option Span :=
  (start.advanceAll? text).bind (between? start)

/-- The number of bytes in a span, provided that it does not run backwards. -/
def size? (span : Span) : Option Nat :=
  if span.start.offset ≤ span.stop.offset then
    some (span.stop.offset - span.start.offset)
  else
    none

/-- Whether a span covers no bytes. -/
def isEmpty (span : Span) : Bool :=
  span.start.offset == span.stop.offset

/-- A span as its line and columns, or as two places when it covers several lines. -/
def render (span : Span) : String :=
  if span.start.line = span.stop.line then
    s!"{span.start.render}-{span.stop.column}"
  else
    s!"{span.start.render}-{span.stop.render}"

end Span

/-- Splits a text after a number of bytes, provided that a character ends there; `passed` holds
the characters already passed, in reverse. -/
def splitBytes? (passed : List Char) : List Char → Nat → Option (List Char × List Char)
  | rest, 0 => some (passed.reverse, rest)
  | [], _ + 1 => none
  | c :: rest, count + 1 =>
    if c.utf8Size ≤ count + 1 then
      splitBytes? (c :: passed) rest (count + 1 - c.utf8Size)
    else
      none

/-- The part of a source that a span covers, provided that the span lies inside the source and
both its ends fall between characters. -/
def Span.slice? (span : Span) (source : String) : Option String :=
  if span.start.offset ≤ span.stop.offset then
    match splitBytes? [] source.toList span.start.offset with
    | none => none
    | some (_, rest) =>
      (splitBytes? [] rest (span.stop.offset - span.start.offset)).map fun covered =>
        String.ofList covered.1
  else
    none

end LexisFront
