import LexisFront.Proofs.Lexing.Run
import LexisFront.Token.Census

/-!
# Counters and tokens

The lexer counts tokens as it makes them, and a census counts the tokens of a finished list. The
two never meet in a run. Here the counters of a run are read as a census, and each token moves
both in the same way, whatever its kind; so at the end of a run that succeeds its counters are the
census of its tokens.

A census of tokens one after the other is the sum of their censuses, which lets a grammar rule be
counted part by part.
-/

namespace LexisFront

namespace Census

/-- Two censuses together. -/
instance : Add Census where
  add left right := ⟨left.total + right.total, left.keywords + right.keywords,
    left.identifiers + right.identifiers, left.numbers + right.numbers,
    left.nulls + right.nulls, left.operators + right.operators, left.grouping + right.grouping⟩

/-- Two censuses together have the sums of their counts. -/
theorem add_def (left right : Census) :
    left + right = ⟨left.total + right.total, left.keywords + right.keywords,
      left.identifiers + right.identifiers, left.numbers + right.numbers,
      left.nulls + right.nulls, left.operators + right.operators,
      left.grouping + right.grouping⟩ := rfl

/-- Censuses can be put together in any grouping. -/
theorem add_assoc (first second third : Census) :
    first + second + third = first + (second + third) := by
  simp only [add_def, Nat.add_assoc]

/-- Counting one more token adds the census of that token. -/
theorem add_kind (census : Census) (kind : Kind) :
    census.add kind = census + ({} : Census).add kind := by
  cases kind <;> rfl

/-- Counting tokens on top of a census adds their census. -/
theorem foldl_add (census : Census) (tokens : List Token) :
    tokens.foldl (fun census token => census.add token.kind) census =
      census + ofTokens tokens := by
  induction tokens generalizing census with
  | nil => rfl
  | cons token rest ih =>
    have later : ofTokens (token :: rest) = ({} : Census).add token.kind + ofTokens rest :=
      ih (({} : Census).add token.kind)
    rw [List.foldl_cons, ih, later, add_kind, add_assoc]

/-- The census of tokens before others is the two censuses together. -/
theorem ofTokens_append (left right : List Token) :
    ofTokens (left ++ right) = ofTokens left + ofTokens right := by
  rw [ofTokens, List.foldl_append, foldl_add]
  rfl

/-- The census of tokens from the first one on. -/
theorem ofTokens_cons (token : Token) (rest : List Token) :
    ofTokens (token :: rest) = ({} : Census).add token.kind + ofTokens rest :=
  foldl_add _ rest

/-- The census of tokens up to the last one. -/
theorem ofTokens_concat (tokens : List Token) (token : Token) :
    ofTokens (tokens ++ [token]) = (ofTokens tokens).add token.kind := by
  rw [ofTokens, List.foldl_append]
  rfl

end Census

namespace Tally

/-- The counters of a run over a number of tokens, as a census. -/
def census (tally : Tally) (total : Nat) : Census where
  total := total
  keywords := tally.keywordTokens
  identifiers := tally.identifierTokens
  numbers := tally.numberTokens
  nulls := tally.nullTokens
  operators := tally.operatorTokens
  grouping := tally.groupingTokens

/-- Counters that do not tell tokens apart are not part of the census. -/
theorem census_noteLength (tally : Tally) (length total : Nat) :
    (tally.noteLength length).census total = tally.census total := by
  unfold noteLength
  split <;> rfl

/-- Dropped characters are not part of the census. -/
theorem census_noteDropped (tally : Tally) (dropped : List Char) (total : Nat) :
    (tally.noteDropped dropped).census total = tally.census total := by
  unfold noteDropped
  split <;> rfl

/-- The counters and the census count a token in the same way, also one of a reserved kind. -/
theorem census_countToken (tally : Tally) (detailed : Bool) (kind : Kind) (total : Nat) :
    (tally.countToken detailed kind).census (total + 1) = (tally.census total).add kind := by
  cases detailed <;> cases kind <;> rfl

end Tally

namespace Lexer

/-- The token of a fragment moves the counters as it moves the census. -/
theorem census_talliedToken (settings : LexicalSettings) (tally : Tally) (fragment : Fragment)
    (token : Token) (total : Nat) :
    (talliedToken settings tally fragment token).census (total + 1) =
      (tally.census total).add token.kind := by
  rw [talliedToken, Tally.census_countToken, Tally.census_noteDropped, Tally.census_noteLength]
  rfl

/-- The counters of a lexer are the census of its tokens. -/
def Counted (lexer : Lexer) : Prop :=
  lexer.tally.census lexer.run.size = Census.ofTokens lexer.run.tokens.toList

/-- The token of a fragment is counted where it is appended. -/
theorem Counted.talliedToken {lexer : Lexer} (counted : lexer.Counted) {run : TokenRun}
    {token : Token} (pushed : run.tokens = lexer.run.tokens.push token)
    (settings : LexicalSettings) (fragment : Fragment) :
    (Lexer.talliedToken settings lexer.tally fragment token).census run.size =
      Census.ofTokens run.tokens.toList := by
  have size : run.size = lexer.run.size + 1 := by simp [TokenRun.size, pushed]
  rw [size, census_talliedToken, counted, pushed, Array.toList_push, Census.ofTokens_concat]

/-- A run that succeeds ends with the census of its tokens in its counters, and with their number,
the terminator included. -/
theorem Runs.census_eq {settings : LexicalSettings} {stop : Position} {lexer : Lexer}
    {fragments : List Fragment} {lexing : Lexing} (runs : Runs settings stop lexer fragments lexing)
    (counted : lexer.Counted) {tokens : TokenSequence} (succeeded : lexing.result = .ok tokens) :
    lexing.tally.census tokens.run.size = Census.ofTokens tokens.body ∧
      lexing.tally.totalTokens = tokens.size := by
  induction runs with
  | finish =>
    obtain rfl := Except.ok.inj succeeded
    exact ⟨counted, rfl⟩
  | skip blank later ih => exact ih counted succeeded
  | full visible many => contradiction
  | refuse visible few judged => contradiction
  | @accept lexer cursor run fragment rest token lexing visible few judged pushed later ih =>
    exact ih (counted.talliedToken pushed settings fragment) succeeded

end Lexer

/-- Lexing a source counts its tokens, when it succeeds. -/
theorem Lexing.census_eq {settings : LexicalSettings} {source : String} {lexing : Lexing}
    (lexed : ofSource? settings source = some lexing) {tokens : TokenSequence}
    (succeeded : lexing.result = .ok tokens) :
    lexing.tally.census tokens.run.size = Census.ofTokens tokens.body ∧
      lexing.tally.totalTokens = tokens.size := by
  obtain ⟨outcome, runs, rfl⟩ := runs_of_ofSource? lexed
  exact runs.census_eq rfl succeeded

end LexisFront
