import LexisFront.Token.Basic

/-!
# Token sequences

A sequence holds tokens of which none is a terminator, followed by one terminator. Sequences
grow by appending, which refuses a terminator, and are then finished once; the type keeps the
fact that the only terminator is the last token.
-/

namespace LexisFront

/-- A growing run of tokens without a terminator. -/
structure TokenRun where
  /-- The tokens so far. -/
  tokens : Array Token
  /-- No token of the run is a terminator. -/
  noEof : ∀ token ∈ tokens, token.isEof = false

namespace TokenRun

/-- The run without tokens. -/
def empty : TokenRun := ⟨#[], by simp⟩

/-- The number of tokens so far. -/
def size (run : TokenRun) : Nat :=
  run.tokens.size

/-- Appends a token, unless it is a terminator. -/
def push? (run : TokenRun) (token : Token) : Option TokenRun :=
  if h : token.isEof = false then
    some ⟨run.tokens.push token, by
      intro other member
      rcases Array.mem_push.1 member with earlier | rfl
      · exact run.noEof other earlier
      · exact h⟩
  else
    none

end TokenRun

/-- A run of tokens and the place of the terminator after it. -/
structure TokenSequence where
  /-- The tokens before the terminator. -/
  run : TokenRun
  /-- The place of the terminator. -/
  eofSpan : Span

namespace TokenSequence

/-- The tokens before the terminator. -/
def body (sequence : TokenSequence) : List Token :=
  sequence.run.tokens.toList

/-- The terminator. -/
def last (sequence : TokenSequence) : Token :=
  Token.eof sequence.eofSpan

/-- Every token in order, the terminator last. -/
def toList (sequence : TokenSequence) : List Token :=
  sequence.body ++ [sequence.last]

/-- The number of tokens, the terminator included. -/
def size (sequence : TokenSequence) : Nat :=
  sequence.run.size + 1

/-- The size of a sequence is the number of its tokens. -/
@[simp]
theorem length_toList (sequence : TokenSequence) : sequence.toList.length = sequence.size := by
  simp [toList, body, size, TokenRun.size]

/-- No token before the terminator is a terminator. -/
theorem isEof_of_mem_body {sequence : TokenSequence} {token : Token}
    (member : token ∈ sequence.body) : token.isEof = false :=
  sequence.run.noEof token (Array.mem_toList_iff.1 member)

/-- The token at an index. -/
def get? (sequence : TokenSequence) (index : Nat) : Option Token :=
  if index = sequence.run.size then some sequence.last else sequence.run.tokens[index]?

end TokenSequence

/-- Appends the terminator at a place. -/
def TokenRun.finish (run : TokenRun) (eofSpan : Span) : TokenSequence := ⟨run, eofSpan⟩

end LexisFront
