/-!
# Text cut into pieces

Cutting a text at its delimiters gives one piece more than there are delimiters. Each piece
keeps the delimiter that ended it, so the pieces together still hold every character of the
text in order.
-/

namespace LexisFront.Text

/-- A stretch of text without delimiters, and the delimiter that ended it. -/
structure Piece where
  /-- The characters of the piece. -/
  text : List Char
  /-- The delimiter after the piece; the last piece has none. -/
  delimiter : Option Char
deriving DecidableEq, Repr

namespace Piece

/-- Every character of a piece, its delimiter included. -/
def characters (piece : Piece) : List Char :=
  piece.text ++ piece.delimiter.toList

end Piece

/-- Cuts what is left of a text; `current` is the open piece and `finished` the pieces before
it, both in reverse. -/
def cutFrom (isDelimiter : Char → Bool) (current : List Char) (finished : List Piece) :
    List Char → List Piece
  | [] => (⟨current.reverse, none⟩ :: finished).reverse
  | c :: rest =>
    if isDelimiter c then
      cutFrom isDelimiter [] (⟨current.reverse, some c⟩ :: finished) rest
    else
      cutFrom isDelimiter (c :: current) finished rest

/-- The pieces of a text between its delimiters. -/
def cut (isDelimiter : Char → Bool) (text : List Char) : List Piece :=
  cutFrom isDelimiter [] [] text

/-- Cutting what is left of a text keeps the finished pieces, the open piece and the text. -/
theorem flatMap_characters_cutFrom (isDelimiter : Char → Bool) (current : List Char)
    (finished : List Piece) (text : List Char) :
    (cutFrom isDelimiter current finished text).flatMap Piece.characters =
      finished.reverse.flatMap Piece.characters ++ current.reverse ++ text := by
  induction text generalizing current finished with
  | nil => simp [cutFrom, Piece.characters]
  | cons c rest ih =>
    by_cases delimits : isDelimiter c
    · simp [cutFrom, delimits, ih, Piece.characters]
    · simp [cutFrom, delimits, ih]

/-- The pieces of a text together are the text. -/
theorem flatMap_characters_cut (isDelimiter : Char → Bool) (text : List Char) :
    (cut isDelimiter text).flatMap Piece.characters = text := by
  simp [cut, flatMap_characters_cutFrom]

end LexisFront.Text
