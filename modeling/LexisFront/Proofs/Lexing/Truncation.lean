import LexisFront.Proofs.Lexing.Reference
import Mathlib.Data.List.TakeWhile

/-!
# Operators that lose characters

The token of a fragment may leave characters of it behind: those after the glyph of an operator.
`Fragment.dropped` names them from the judgement alone. A run takes tokens from its visible
fragments until one of them is no token or is one too many, and its counter is the number of
fragments taken for which there are dropped characters, whether the run succeeds or not.
-/

namespace LexisFront

namespace Fragment

/-- The characters of a fragment that its token does not hold; an error holds none and drops
none. -/
def dropped (settings : LexicalSettings) (fragment : Fragment) : List Char :=
  match fragment.judge settings with
  | .ok token => fragment.text.drop token.value.length
  | .error _ => []

/-- The visible fragments from which a run takes tokens, of which it may take at most `limit`:
those before the first that is no token. -/
def taken (settings : LexicalSettings) (limit : Nat) (visible : List Fragment) : List Fragment :=
  (visible.take limit).takeWhile fun fragment => (fragment.judge settings).isOk

/-- The fragments from which a run takes tokens after those that it already has. -/
def takenAfter (settings : LexicalSettings) (run : TokenRun) (fragments : List Fragment) :
    List Fragment :=
  taken settings (Limits.maxTokenCount - 1 - run.size)
    (fragments.filter fun fragment => !Text.isBlank fragment.text)

variable {settings : LexicalSettings}

/-- Every visible fragment is taken when each is a token and all of them fit. -/
theorem taken_eq_self {limit : Nat} {visible : List Fragment}
    (all : ∀ fragment ∈ visible, ∃ token, fragment.judge settings = .ok token)
    (fits : visible.length ≤ limit) : taken settings limit visible = visible := by
  rw [taken, List.take_of_length_le fits, List.takeWhile_eq_self_iff]
  intro fragment member
  obtain ⟨token, judged⟩ := all fragment member
  rw [judged]
  rfl

variable {run : TokenRun} {fragment : Fragment} {rest : List Fragment}

/-- Nothing is taken from no fragments. -/
@[simp]
theorem takenAfter_nil : takenAfter settings run [] = [] := by
  simp [takenAfter, taken]

/-- A blank fragment is passed over. -/
theorem takenAfter_of_blank (blank : Text.isBlank fragment.text = true) :
    takenAfter settings run (fragment :: rest) = takenAfter settings run rest := by
  simp [takenAfter, blank]

/-- Nothing is taken where there is no room. -/
theorem takenAfter_of_full (many : Limits.maxTokenCount < run.size + 2) (all : List Fragment) :
    takenAfter settings run all = [] := by
  have none : Limits.maxTokenCount - 1 - run.size = 0 := by omega
  rw [takenAfter, none]
  rfl

/-- Nothing is taken from a visible fragment that is no token, nor after it. -/
theorem takenAfter_of_judge_error (visible : Text.isBlank fragment.text = false)
    {error : LexicalError} (judged : fragment.judge settings = .error error) :
    takenAfter settings run (fragment :: rest) = [] := by
  rw [takenAfter, List.filter_cons_of_pos (by simp [visible]), taken]
  cases Limits.maxTokenCount - 1 - run.size with
  | zero => rfl
  | succ room => simp [judged, Except.isOk, Except.toBool]

/-- A visible fragment that is a token is taken where there is room, and leaves room for one
less. -/
theorem takenAfter_of_judge_ok (visible : Text.isBlank fragment.text = false)
    (few : run.size + 2 ≤ Limits.maxTokenCount) {token : Token}
    (judged : fragment.judge settings = .ok token) {next : TokenRun}
    (pushed : next.tokens = run.tokens.push token) :
    takenAfter settings run (fragment :: rest) = fragment :: takenAfter settings next rest := by
  have size : next.size = run.size + 1 := by simp [TokenRun.size, pushed]
  have room : Limits.maxTokenCount - 1 - run.size =
      Limits.maxTokenCount - 1 - next.size + 1 := by omega
  rw [takenAfter, List.filter_cons_of_pos (by simp [visible]), room, taken, List.take_succ_cons,
    List.takeWhile_cons_of_pos (by simp [judged, Except.isOk, Except.toBool])]
  rfl

end Fragment

namespace Tally

/-- Meeting a fragment truncates nothing. -/
@[simp]
theorem truncatedOperators_seeFragment (tally : Tally) :
    tally.seeFragment.truncatedOperators = tally.truncatedOperators := rfl

/-- Skipping a fragment truncates nothing. -/
@[simp]
theorem truncatedOperators_skipFragment (tally : Tally) :
    tally.skipFragment.truncatedOperators = tally.truncatedOperators := rfl

/-- The length of a fragment truncates nothing. -/
@[simp]
theorem truncatedOperators_noteLength (tally : Tally) (length : Nat) :
    (tally.noteLength length).truncatedOperators = tally.truncatedOperators := by
  unfold noteLength
  split <;> rfl

/-- Dropped characters count once, however many they are. -/
@[simp]
theorem truncatedOperators_noteDropped (tally : Tally) (dropped : List Char) :
    (tally.noteDropped dropped).truncatedOperators =
      tally.truncatedOperators + if dropped = [] then 0 else 1 := by
  cases dropped <;> rfl

/-- Counting a token truncates nothing. -/
@[simp]
theorem truncatedOperators_countToken (tally : Tally) (detailed : Bool) (kind : Kind) :
    (tally.countToken detailed kind).truncatedOperators = tally.truncatedOperators := by
  unfold countToken
  cases kind <;> cases detailed <;> rfl

end Tally

/-- The token of a fragment counts once when the fragment has dropped characters. -/
theorem Lexer.truncatedOperators_talliedToken {settings : LexicalSettings} {fragment : Fragment}
    {token : Token} (judged : fragment.judge settings = .ok token) (tally : Tally) :
    (talliedToken settings tally fragment token).truncatedOperators =
      tally.truncatedOperators + if fragment.dropped settings = [] then 0 else 1 := by
  simp [talliedToken, Fragment.dropped, judged]

/-- A run counts the fragments with dropped characters among those that it takes. -/
theorem Lexer.Runs.truncatedOperators_eq {settings : LexicalSettings} {stop : Position}
    {lexer : Lexer} {fragments : List Fragment} {lexing : Lexing}
    (runs : Runs settings stop lexer fragments lexing) :
    lexing.tally.truncatedOperators = lexer.tally.truncatedOperators +
      (Fragment.takenAfter settings lexer.run fragments).countP fun fragment =>
        fragment.dropped settings ≠ [] := by
  induction runs with
  | finish =>
    rw [Fragment.takenAfter_nil]
    rfl
  | skip blank later ih =>
    rw [Fragment.takenAfter_of_blank blank]
    exact ih
  | full visible many =>
    rw [Fragment.takenAfter_of_full many]
    rfl
  | refuse visible few judged =>
    rw [Fragment.takenAfter_of_judge_error visible judged]
    simp [failure]
  | @accept lexer cursor run fragment rest token lexing visible few judged pushed later ih =>
    have counted := truncatedOperators_talliedToken judged lexer.tally
    rw [ih, Fragment.takenAfter_of_judge_ok visible few judged pushed, List.countP_cons]
    change (talliedToken settings lexer.tally fragment token).truncatedOperators + _ = _
    rw [counted]
    by_cases whole : fragment.dropped settings = []
    · simp [whole]
    · simp only [whole, ↓reduceIte, ne_eq, not_false_eq_true, decide_true]
      omega

namespace Lexing

/-- Lexing a source counts the fragments with dropped characters among those that it takes. -/
theorem truncatedOperators_eq_countP_taken {settings : LexicalSettings} {source : String}
    {lexing : Lexing} (lexed : ofSource? settings source = some lexing) :
    lexing.tally.truncatedOperators =
      (Fragment.taken settings (Limits.maxTokenCount - 1)
        (Fragment.visible settings source.toList)).countP fun fragment =>
          fragment.dropped settings ≠ [] := by
  obtain ⟨outcome, runs, rfl⟩ := runs_of_ofSource? lexed
  have counted := runs.truncatedOperators_eq
  rw [Nat.zero_add] at counted
  exact counted

/-- Lexing a source counts the visible fragments with dropped characters, when it succeeds. -/
theorem truncatedOperators_eq {settings : LexicalSettings} {source : String}
    {lexing : Lexing} (lexed : ofSource? settings source = some lexing) {tokens : TokenSequence}
    (succeeded : lexing.result = .ok tokens) :
    lexing.tally.truncatedOperators =
      (Fragment.visible settings source.toList).countP fun fragment =>
        fragment.dropped settings ≠ [] := by
  have found := result_eq lexed
  rw [succeeded] at found
  obtain ⟨all, fits⟩ := exists_collect_eq_ok_iff.1 ⟨_, found.symm⟩
  rw [truncatedOperators_eq_countP_taken lexed, Fragment.taken_eq_self all fits]

end Lexing

end LexisFront
