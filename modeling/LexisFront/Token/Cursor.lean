import LexisFront.Token.Basic

/-!
# Reading position over tokens

A cursor reads a list of tokens from left to right and never goes back. It may stand after the
last token, where there is nothing to read.
-/

namespace LexisFront

/-- A reading position over a list of tokens. -/
structure Cursor where
  /-- The tokens that are read. -/
  tokens : Array Token
  /-- The number of tokens already passed. -/
  position : Nat

namespace Cursor

/-- The cursor before the first token. -/
def ofArray (tokens : Array Token) : Cursor := ⟨tokens, 0⟩

/-- The token at the cursor. -/
def current? (cursor : Cursor) : Option Token :=
  cursor.tokens[cursor.position]?

/-- The kind of the token at the cursor. -/
def kind? (cursor : Cursor) : Option Kind :=
  cursor.current?.map (·.kind)

/-- The token after the one at the cursor. -/
def peek? (cursor : Cursor) : Option Token :=
  cursor.tokens[cursor.position + 1]?

/-- Passes the token at the cursor, when there is one. -/
def advance (cursor : Cursor) : Cursor :=
  match cursor.current? with
  | none => cursor
  | some _ => { cursor with position := cursor.position + 1 }

/-- Whether the token at the cursor has a kind. -/
def check (cursor : Cursor) (kind : Kind) : Bool :=
  cursor.kind? == some kind

/-- Whether the cursor stands on a terminator or after the last token. -/
def isAtEof (cursor : Cursor) : Bool :=
  match cursor.current? with
  | none => true
  | some token => token.isEof

end Cursor

end LexisFront
