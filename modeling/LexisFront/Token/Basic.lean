import LexisFront.Source.Span
import LexisFront.Token.Kind

/-!
# Tokens

A token is a classified stretch of source: its kind, its text and its place. The text of an
operator is its glyph alone, and the token that ends a sequence has a fixed text.
-/

namespace LexisFront

/-- A classified stretch of source. -/
structure Token where
  /-- What the token is. -/
  kind : Kind
  /-- The text that the token was made from. -/
  value : String
  /-- Where the text stands. -/
  span : Span
deriving DecidableEq, Repr, Inhabited

namespace Token

/-- The token that ends a sequence. -/
def eof (span : Span) : Token := ⟨.eof, "EOF", span⟩

/-- Whether a token ends a sequence. -/
def isEof (token : Token) : Bool :=
  token.kind == .eof

/-- A token as its kind and its text. -/
def render (token : Token) : String :=
  s!"{token.kind.name} [{token.value}]"

end Token

end LexisFront
