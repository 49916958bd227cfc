/-!
# Positions in source text

A position counts the bytes before it and names its line and column. Bytes are counted from
zero, lines and columns from one, and a column counts characters. The counters have fixed
widths, so moving past a character can leave their range; the move then has no result.
-/

namespace LexisFront

/-- A place in source text. -/
structure Position where
  /-- Bytes before the place. -/
  offset : Nat
  /-- Line of the place, counted from one. -/
  line : Nat
  /-- Column of the place in characters, counted from one. -/
  column : Nat
deriving DecidableEq, Repr, Inhabited

namespace Position

/-- The largest offset. -/
def maxOffset : Nat := UInt64.size - 1

/-- The largest line number. -/
def maxLine : Nat := UInt32.size - 1

/-- The largest column number. -/
def maxColumn : Nat := UInt32.size - 1

/-- Whether every counter of the position is in its range. -/
def InRange (position : Position) : Prop :=
  position.offset ≤ maxOffset ∧ position.line ≤ maxLine ∧ position.column ≤ maxColumn

instance (position : Position) : Decidable position.InRange :=
  inferInstanceAs (Decidable (_ ∧ _ ∧ _))

/-- The place where every source begins. -/
def start : Position := ⟨0, 1, 1⟩

/-- The position with all counters zero, which stands for an unknown place. -/
def zero : Position := ⟨0, 0, 0⟩

/-- The place after one character, whatever the range of the counters. -/
def after (position : Position) (c : Char) : Position :=
  if c = '\n' then
    ⟨position.offset + 1, position.line + 1, 1⟩
  else
    ⟨position.offset + c.utf8Size, position.line, position.column + 1⟩

/-- The place after one character, unless a counter would leave its range. -/
def advance? (position : Position) (c : Char) : Option Position :=
  if (position.after c).InRange then some (position.after c) else none

/-- The place after a text, unless a counter would leave its range on the way. -/
def advanceAll? (position : Position) : List Char → Option Position
  | [] => some position
  | c :: rest =>
    match position.advance? c with
    | none => none
    | some next => next.advanceAll? rest

/-- Advancing past no text stays in place. -/
@[simp]
theorem advanceAll?_nil (position : Position) : position.advanceAll? [] = some position := rfl

/-- Advancing past a character and a text advances past the one, then past the other. -/
theorem advanceAll?_cons (position : Position) (c : Char) (rest : List Char) :
    position.advanceAll? (c :: rest) = (position.advance? c).bind (·.advanceAll? rest) := by
  cases next : position.advance? c <;> simp [advanceAll?, next]

/-- Advancing past two texts advances past the first, then past the second. -/
theorem advanceAll?_append (position : Position) (left right : List Char) :
    position.advanceAll? (left ++ right) =
      (position.advanceAll? left).bind (·.advanceAll? right) := by
  induction left generalizing position with
  | nil => simp
  | cons c rest ih =>
    rw [List.cons_append, advanceAll?_cons, advanceAll?_cons, Option.bind_assoc]
    congr 1
    funext next
    exact ih next

/-- Positions are ordered by offset, then line, then column. -/
instance : Ord Position where
  compare left right :=
    (compare left.offset right.offset).then
      ((compare left.line right.line).then (compare left.column right.column))

/-- A position as a line and a column. -/
def render (position : Position) : String :=
  s!"{position.line}:{position.column}"

end Position

end LexisFront
