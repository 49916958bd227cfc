import LexisFront.Fragment.Lexer
import LexisFront.Proofs.Lexing.Judgement

/-!
# Runs of the lexer

The lexer computes places as it goes and gives up when one leaves its range. `Lexer.Runs` says
what a run does without that: every way in which it passes a fragment, stops at one or ends after
the last, as a derivation over the fragments of the source. Fragments know their places, so a
derivation leaves open where the cursor stands between them and only names the last place.

Whatever the lexer comes to is the outcome of a run over the fragments, and it comes to something
for every source of at most `2 ^ 32 - 2` characters. Statements about the tokens, the counters and
the warnings of a run are proved by induction on the derivation.
-/

namespace LexisFront

namespace Tally

/-- Meeting a fragment counts it. -/
@[simp]
theorem fragmentsSeen_seeFragment (tally : Tally) :
    tally.seeFragment.fragmentsSeen = tally.fragmentsSeen + 1 := rfl

/-- Skipping a fragment does not count it again. -/
@[simp]
theorem fragmentsSeen_skipFragment (tally : Tally) :
    tally.skipFragment.fragmentsSeen = tally.fragmentsSeen := rfl

/-- The length of a fragment does not change the number of fragments. -/
@[simp]
theorem fragmentsSeen_noteLength (tally : Tally) (length : Nat) :
    (tally.noteLength length).fragmentsSeen = tally.fragmentsSeen := by
  unfold noteLength
  split <;> rfl

/-- Dropped characters do not change the number of fragments. -/
@[simp]
theorem fragmentsSeen_noteDropped (tally : Tally) (dropped : List Char) :
    (tally.noteDropped dropped).fragmentsSeen = tally.fragmentsSeen := by
  unfold noteDropped
  split <;> rfl

/-- Counting a token does not change the number of fragments. -/
@[simp]
theorem fragmentsSeen_countToken (tally : Tally) (detailed : Bool) (kind : Kind) :
    (tally.countToken detailed kind).fragmentsSeen = tally.fragmentsSeen := by
  unfold countToken
  cases kind <;> cases detailed <;> rfl

end Tally

/-- A token that is no terminator can be appended to a run. -/
theorem TokenRun.exists_push? (run : TokenRun) {token : Token} (proper : token.isEof = false) :
    ∃ later, run.push? token = some later ∧ later.tokens = run.tokens.push token := by
  unfold push?
  rw [dif_pos proper]
  exact ⟨_, rfl, rfl⟩

/-- The token of a fragment is no terminator. -/
theorem Fragment.isEof_of_judge_ok {settings : LexicalSettings} {fragment : Fragment}
    {token : Token} (judged : fragment.judge settings = .ok token) : token.isEof = false := by
  obtain ⟨kind, value, rest, rfl, proper, -, -⟩ := exists_token_of_judge_ok judged
  exact beq_eq_false_iff_ne.2 proper

namespace Lexer

/-- The counters after the token of a fragment, of which it leaves some characters. -/
def talliedToken (settings : LexicalSettings) (tally : Tally) (fragment : Fragment)
    (token : Token) : Tally :=
  ((tally.seeFragment.noteLength fragment.text.length).noteDropped
    (fragment.text.drop token.value.length)).countToken settings.detailedMetrics token.kind

/-- The warnings after the token of a fragment, of which it leaves some characters. -/
def warnedToken (settings : LexicalSettings) (warnings : Array Event) (fragment : Fragment)
    (token : Token) : Array Event :=
  warn settings warnings fragment.span fragment.text token
    (fragment.text.drop token.value.length)

/-- What a run over fragments up to a last place comes to. -/
inductive Runs (settings : LexicalSettings) (stop : Position) :
    Lexer → List Fragment → Lexing → Prop
  /-- A run ends after its last fragment. -/
  | finish {lexer : Lexer} : Runs settings stop lexer [] (finish { lexer with cursor := stop })
  /-- A blank fragment is skipped. -/
  | skip {lexer : Lexer} {cursor : Position} {fragment : Fragment} {rest : List Fragment}
      {lexing : Lexing} (blank : Text.isBlank fragment.text = true)
      (later : Runs settings stop
        ⟨cursor, lexer.run, lexer.tally.seeFragment.skipFragment, lexer.warnings⟩ rest lexing) :
      Runs settings stop lexer (fragment :: rest) lexing
  /-- A fragment for which there is no room ends the run, whatever it is. -/
  | full {lexer : Lexer} {fragment : Fragment} {rest : List Fragment}
      (visible : Text.isBlank fragment.text = false)
      (many : Limits.maxTokenCount < lexer.run.size + 2) :
      Runs settings stop lexer (fragment :: rest)
        (failure lexer.tally.seeFragment lexer.warnings (.tooManyTokens (lexer.run.size + 2))
          fragment.span)
  /-- A fragment that is no token ends the run. -/
  | refuse {lexer : Lexer} {fragment : Fragment} {rest : List Fragment} {error : LexicalError}
      (visible : Text.isBlank fragment.text = false)
      (few : lexer.run.size + 2 ≤ Limits.maxTokenCount)
      (judged : fragment.judge settings = .error error) :
      Runs settings stop lexer (fragment :: rest)
        (failure (lexer.tally.seeFragment.noteLength fragment.text.length) lexer.warnings error
          fragment.span)
  /-- A fragment that is a token adds it. -/
  | accept {lexer : Lexer} {cursor : Position} {run : TokenRun} {fragment : Fragment}
      {rest : List Fragment} {token : Token} {lexing : Lexing}
      (visible : Text.isBlank fragment.text = false)
      (few : lexer.run.size + 2 ≤ Limits.maxTokenCount)
      (judged : fragment.judge settings = .ok token)
      (pushed : run.tokens = lexer.run.tokens.push token)
      (later : Runs settings stop
        ⟨cursor, run, talliedToken settings lexer.tally fragment token,
          warnedToken settings lexer.warnings fragment token⟩ rest lexing) :
      Runs settings stop lexer (fragment :: rest) lexing

variable {settings : LexicalSettings} {stop : Position}

/-- A run without fragments ends at once. -/
theorem Runs.of_nil {lexer : Lexer} {lexing : Lexing} (runs : Runs settings stop lexer [] lexing) :
    lexing = Lexer.finish { lexer with cursor := stop } := by
  cases runs
  rfl

/-- A run that meets a blank fragment goes on after it. -/
theorem Runs.of_blank {lexer : Lexer} {fragment : Fragment} {rest : List Fragment}
    {lexing : Lexing} (runs : Runs settings stop lexer (fragment :: rest) lexing)
    (blank : Text.isBlank fragment.text = true) :
    ∃ cursor, Runs settings stop
      ⟨cursor, lexer.run, lexer.tally.seeFragment.skipFragment, lexer.warnings⟩ rest lexing := by
  cases runs with
  | skip _ later => exact ⟨_, later⟩
  | full visible => exact absurd blank (Bool.eq_false_iff.1 visible)
  | refuse visible => exact absurd blank (Bool.eq_false_iff.1 visible)
  | accept visible => exact absurd blank (Bool.eq_false_iff.1 visible)

/-- A run that meets a visible fragment without room for it ends. -/
theorem Runs.of_full {lexer : Lexer} {fragment : Fragment} {rest : List Fragment}
    {lexing : Lexing} (runs : Runs settings stop lexer (fragment :: rest) lexing)
    (visible : Text.isBlank fragment.text = false)
    (many : Limits.maxTokenCount < lexer.run.size + 2) :
    lexing = failure lexer.tally.seeFragment lexer.warnings (.tooManyTokens (lexer.run.size + 2))
      fragment.span := by
  cases runs with
  | skip blank => exact absurd blank (Bool.eq_false_iff.1 visible)
  | full => rfl
  | refuse _ few => exact absurd many (Nat.not_lt.2 few)
  | accept _ few => exact absurd many (Nat.not_lt.2 few)

/-- A run that meets a visible fragment that is no token ends, if there is room for a token. -/
theorem Runs.of_judge_error {lexer : Lexer} {fragment : Fragment} {rest : List Fragment}
    {lexing : Lexing} (runs : Runs settings stop lexer (fragment :: rest) lexing)
    (visible : Text.isBlank fragment.text = false)
    (few : lexer.run.size + 2 ≤ Limits.maxTokenCount) {error : LexicalError}
    (judged : fragment.judge settings = .error error) :
    lexing = failure (lexer.tally.seeFragment.noteLength fragment.text.length) lexer.warnings error
      fragment.span := by
  cases runs with
  | skip blank => exact absurd blank (Bool.eq_false_iff.1 visible)
  | full _ many => exact absurd many (Nat.not_lt.2 few)
  | refuse _ _ other =>
    obtain rfl := Except.error.inj (judged.symm.trans other)
    rfl
  | accept _ _ other =>
    have impossible := judged.symm.trans other
    contradiction

/-- A run that meets a visible fragment that is a token adds it and goes on, if there is room. -/
theorem Runs.of_judge_ok {lexer : Lexer} {fragment : Fragment} {rest : List Fragment}
    {lexing : Lexing} (runs : Runs settings stop lexer (fragment :: rest) lexing)
    (visible : Text.isBlank fragment.text = false)
    (few : lexer.run.size + 2 ≤ Limits.maxTokenCount) {token : Token}
    (judged : fragment.judge settings = .ok token) :
    ∃ cursor run, run.tokens = lexer.run.tokens.push token ∧ Runs settings stop
      ⟨cursor, run, talliedToken settings lexer.tally fragment token,
        warnedToken settings lexer.warnings fragment token⟩ rest lexing := by
  cases runs with
  | skip blank => exact absurd blank (Bool.eq_false_iff.1 visible)
  | full _ many => exact absurd many (Nat.not_lt.2 few)
  | refuse _ _ other =>
    have impossible := judged.symm.trans other
    contradiction
  | accept _ _ other pushed later =>
    obtain rfl := Except.ok.inj (judged.symm.trans other)
    exact ⟨_, _, pushed, later⟩

/-- A piece after a text can be passed: the checked move past its characters succeeds. -/
def CanPass (before : List Char) (piece : Text.Piece) : Prop :=
  (Position.start.afterAll before).advanceAll? piece.characters =
    some (Position.start.afterAll (before ++ piece.characters))

/-- A piece that can be passed has its fragment in range. -/
theorem CanPass.inRange {before : List Char} {piece : Text.Piece} (canPass : CanPass before piece)
    {index : Nat} : Fragment.InRange ⟨index, before, piece.text⟩ := by
  have first := (Position.advanceAll?_of_append canPass).1
  rw [← Position.afterAll_append] at first
  exact first

/-- Passing a piece whose places are in range only looks at its fragment. -/
theorem step?_eq {lexer : Lexer} {before : List Char} {piece : Text.Piece}
    (canPass : CanPass before piece) (placed : lexer.cursor = Position.start.afterAll before) :
    step? settings lexer piece =
      if Text.isBlank piece.text then
        some (.inl ⟨Position.start.afterAll (before ++ piece.characters), lexer.run,
          lexer.tally.seeFragment.skipFragment, lexer.warnings⟩)
      else
        takeFragment? settings
          ⟨Position.start.afterAll (before ++ piece.characters), lexer.run,
            lexer.tally.seeFragment, lexer.warnings⟩
          lexer.tally.fragmentsSeen
          (Fragment.span ⟨lexer.tally.fragmentsSeen, before, piece.text⟩) piece.text := by
  obtain ⟨start, run, tally, warnings⟩ := lexer
  obtain rfl : start = Position.start.afterAll before := placed
  obtain ⟨first, later⟩ := Position.advanceAll?_of_append canPass
  simp only [step?, first, later, Span.between?_afterAll]
  rw [← Position.afterAll_append]
  rfl

/-- Taking a fragment whose places are in range depends on the room for tokens, then on the
judgement. -/
theorem takeFragment?_eq (lexer : Lexer) {fragment : Fragment} (inRange : fragment.InRange) :
    takeFragment? settings lexer fragment.index fragment.span fragment.text =
      if Limits.maxTokenCount < lexer.run.size + 2 then
        some (.inr (failure lexer.tally lexer.warnings (.tooManyTokens (lexer.run.size + 2))
          fragment.span))
      else
        match fragment.judge settings with
        | .error error =>
          some (.inr (failure (lexer.tally.noteLength fragment.text.length) lexer.warnings error
            fragment.span))
        | .ok token =>
          (lexer.run.push? token).map fun run => .inl ⟨lexer.cursor, run,
            ((lexer.tally.noteLength fragment.text.length).noteDropped
              (fragment.text.drop token.value.length)).countToken settings.detailedMetrics
                token.kind,
            warnedToken settings lexer.warnings fragment token⟩ := by
  obtain ⟨cursor, run, tally, warnings⟩ := lexer
  simp only [takeFragment?, Fragment.ofFragment?_eq settings inRange,
    Fragment.contribution]
  split
  · rfl
  · cases fragment.judge settings <;> rfl

/-- A piece that can be passed either ends every run over its fragment, or leaves a lexer after it
whose runs are those of the lexer before it from its fragment on. -/
theorem runPieces?_cons_cases (stop : Position) {lexer : Lexer} {before : List Char}
    {piece : Text.Piece} (canPass : CanPass before piece)
    (placed : lexer.cursor = Position.start.afterAll before) (pieces : List Text.Piece) :
    let fragment : Fragment := ⟨lexer.tally.fragmentsSeen, before, piece.text⟩
    (∃ lexing, runPieces? settings lexer (piece :: pieces) = some lexing ∧
        ∀ rest, Runs settings stop lexer (fragment :: rest) lexing) ∨
      ∃ next : Lexer, next.cursor = Position.start.afterAll (before ++ piece.characters) ∧
        next.tally.fragmentsSeen = lexer.tally.fragmentsSeen + 1 ∧
        runPieces? settings lexer (piece :: pieces) = runPieces? settings next pieces ∧
        ∀ rest lexing, Runs settings stop next rest lexing →
          Runs settings stop lexer (fragment :: rest) lexing := by
  intro fragment
  let cursor := Position.start.afterAll (before ++ piece.characters)
  rw [runPieces?, step?_eq canPass placed]
  by_cases blank : Text.isBlank piece.text = true
  · rw [if_pos blank]
    exact .inr ⟨⟨cursor, lexer.run, lexer.tally.seeFragment.skipFragment, lexer.warnings⟩, rfl,
      rfl, rfl, fun rest lexing => .skip blank⟩
  · have visible : Text.isBlank fragment.text = false := Bool.eq_false_iff.2 blank
    have taken := @takeFragment?_eq settings
      ⟨cursor, lexer.run, lexer.tally.seeFragment, lexer.warnings⟩ fragment
      (CanPass.inRange canPass)
    rw [if_neg blank, taken]
    by_cases many : Limits.maxTokenCount < lexer.run.size + 2
    · rw [if_pos many]
      exact .inl ⟨_, rfl, fun rest => .full visible many⟩
    · have few := Nat.le_of_not_lt many
      rw [if_neg many]
      cases judged : fragment.judge settings with
      | error error => exact .inl ⟨_, rfl, fun rest => .refuse visible few judged⟩
      | ok token =>
        obtain ⟨run, push, pushed⟩ := lexer.run.exists_push? (Fragment.isEof_of_judge_ok judged)
        refine .inr ⟨⟨cursor, run, talliedToken settings lexer.tally fragment token,
          warnedToken settings lexer.warnings fragment token⟩, rfl, by simp [talliedToken], ?_,
          fun rest lexing => .accept visible few judged pushed⟩
        simp only [push, Option.map_some]
        rfl

/-- A lexer that has an outcome can pass the piece before it. -/
theorem canPass_of_runPieces? {lexer : Lexer} {before : List Char} {piece : Text.Piece}
    {pieces : List Text.Piece} {lexing : Lexing}
    (placed : lexer.cursor = Position.start.afterAll before)
    (ran : runPieces? settings lexer (piece :: pieces) = some lexing) :
    CanPass before piece := by
  obtain ⟨start, run, tally, warnings⟩ := lexer
  obtain rfl : start = Position.start.afterAll before := placed
  cases first : (Position.start.afterAll before).advanceAll? piece.text with
  | none => simp [runPieces?, step?, first] at ran
  | some stop =>
    cases later : stop.advanceAll? piece.delimiter.toList with
    | none => simp [runPieces?, step?, first, later] at ran
    | some cursor =>
      have moved : (Position.start.afterAll before).advanceAll? piece.characters = some cursor := by
        rw [Text.Piece.characters, Position.advanceAll?_append, first]
        exact later
      rw [CanPass, moved, Position.afterAll_append, Position.eq_afterAll_of_advanceAll? moved]

/-- Whatever the lexer comes to over the pieces of a text, a run over its fragments comes to. -/
theorem runs_of_runPieces? {rest : List Char} {pieces : List Text.Piece}
    (isCut : Text.IsCut settings.isDelimiter rest pieces) {before : List Char} {lexer : Lexer}
    (placed : lexer.cursor = Position.start.afterAll before) {lexing : Lexing}
    (ran : runPieces? settings lexer pieces = some lexing) :
    Runs settings (Position.start.afterAll (before ++ rest)) lexer
      (Fragment.ofPieces lexer.tally.fragmentsSeen before pieces) lexing := by
  -- A passed piece moves from `rest` to `before`, and the last place stays the same.
  induction isCut generalizing before lexer with
  | @last text free =>
    have characters : (⟨text, none⟩ : Text.Piece).characters = text := List.append_nil text
    rcases runPieces?_cons_cases (Position.start.afterAll (before ++ text))
        (canPass_of_runPieces? placed ran) placed [] with
      ⟨outcome, same, runs⟩ | ⟨next, ends, -, same, runs⟩
    · obtain rfl := Option.some.inj (same.symm.trans ran)
      exact runs []
    · obtain rfl := Option.some.inj (same.symm.trans ran)
      refine runs [] _ ?_
      rw [characters] at ends
      rw [← ends]
      exact .finish
  | @more text rest c pieces free delimits later ih =>
    have whole : before ++ (text ++ c :: rest) =
        before ++ (⟨text, some c⟩ : Text.Piece).characters ++ rest := by
      simp [Text.Piece.characters]
    rw [whole]
    rcases runPieces?_cons_cases
        (Position.start.afterAll (before ++ (⟨text, some c⟩ : Text.Piece).characters ++ rest))
        (canPass_of_runPieces? placed ran) placed pieces with
      ⟨outcome, same, runs⟩ | ⟨next, ends, seen, same, runs⟩
    · obtain rfl := Option.some.inj (same.symm.trans ran)
      exact runs _
    · refine runs _ _ ?_
      rw [← seen]
      exact ih ends (same.symm.trans ran)

/-- The lexer has an outcome over the pieces of a text past which it can move. -/
theorem exists_runPieces?_of_advanceAll? {rest : List Char} {pieces : List Text.Piece}
    (isCut : Text.IsCut settings.isDelimiter rest pieces) {before : List Char} {lexer : Lexer}
    (placed : lexer.cursor = Position.start.afterAll before) {last : Position}
    (moved : (Position.start.afterAll before).advanceAll? rest = some last) :
    ∃ lexing, runPieces? settings lexer pieces = some lexing := by
  induction isCut generalizing before lexer with
  | @last text free =>
    have canPass : CanPass before ⟨text, none⟩ := by
      have ends := Position.eq_afterAll_of_advanceAll? moved
      rw [CanPass, Text.Piece.characters, Option.toList_none, List.append_nil, moved, ends,
        Position.afterAll_append]
    rcases runPieces?_cons_cases Position.start canPass placed [] with
      ⟨outcome, same, -⟩ | ⟨next, -, -, same, -⟩
    · exact ⟨outcome, same⟩
    · exact ⟨next.finish, same⟩
  | @more text rest c pieces free delimits later ih =>
    have whole : text ++ c :: rest = (⟨text, some c⟩ : Text.Piece).characters ++ rest := by
      simp [Text.Piece.characters]
    rw [whole] at moved
    obtain ⟨first, after⟩ := Position.advanceAll?_of_append moved
    rw [← Position.afterAll_append] at first after
    rcases runPieces?_cons_cases Position.start first placed pieces with
      ⟨outcome, same, -⟩ | ⟨next, ends, -, same, -⟩
    · exact ⟨outcome, same⟩
    · rw [same]
      exact ih ends after

/-- A lexer that takes a fragment goes on at the same place, or ends with an error. -/
theorem takeFragment?_cases {lexer : Lexer} {index : Nat} {span : Span} {fragment : List Char}
    {outcome : Step} (taken : takeFragment? settings lexer index span fragment = some outcome) :
    (∃ later, outcome = .inl later ∧ later.cursor = lexer.cursor) ∨
      ∃ lexing error, outcome = .inr lexing ∧ lexing.result = .error error := by
  obtain ⟨cursor, run, tally, warnings⟩ := lexer
  simp only [takeFragment?] at taken
  split at taken
  · exact .inr ⟨_, _, (Option.some.inj taken).symm, rfl⟩
  · split at taken
    · contradiction
    · exact .inr ⟨_, _, (Option.some.inj taken).symm, rfl⟩
    · obtain ⟨run, -, rfl⟩ := Option.map_eq_some_iff.1 taken
      exact .inl ⟨_, rfl, rfl⟩

/-- A lexer that passes a piece moves past it and goes on there, or ends with an error. -/
theorem step?_cases {lexer : Lexer} {piece : Text.Piece} {outcome : Step}
    (stepped : step? settings lexer piece = some outcome) :
    (∃ later, outcome = .inl later ∧
        lexer.cursor.advanceAll? piece.characters = some later.cursor) ∨
      ∃ lexing error, outcome = .inr lexing ∧ lexing.result = .error error := by
  obtain ⟨start, run, tally, warnings⟩ := lexer
  cases first : start.advanceAll? piece.text with
  | none => simp [step?, first] at stepped
  | some stop =>
    cases last : stop.advanceAll? piece.delimiter.toList with
    | none => simp [step?, first, last] at stepped
    | some cursor =>
      have moved : start.advanceAll? piece.characters = some cursor := by
        rw [Text.Piece.characters, Position.advanceAll?_append, first, Option.bind_some, last]
      simp only [step?, first, last] at stepped
      split at stepped
      · exact .inl ⟨_, (Option.some.inj stepped).symm, moved⟩
      · split at stepped
        · contradiction
        · rcases takeFragment?_cases stepped with ⟨later, same, stays⟩ | failed
          · exact .inl ⟨later, same, stays ▸ moved⟩
          · exact .inr failed

/-- A lexer that comes to tokens has moved past every piece. -/
theorem exists_advanceAll?_of_ok {lexer : Lexer} {pieces : List Text.Piece} {lexing : Lexing}
    (ran : runPieces? settings lexer pieces = some lexing) {tokens : TokenSequence}
    (succeeded : lexing.result = .ok tokens) :
    ∃ stop, lexer.cursor.advanceAll? (pieces.flatMap Text.Piece.characters) = some stop := by
  induction pieces generalizing lexer with
  | nil => exact ⟨lexer.cursor, rfl⟩
  | cons piece pieces ih =>
    rw [runPieces?] at ran
    cases stepped : step? settings lexer piece with
    | none =>
      rw [stepped] at ran
      contradiction
    | some outcome =>
      rw [stepped] at ran
      rcases step?_cases stepped with ⟨later, rfl, moved⟩ | ⟨other, error, rfl, failed⟩
      · obtain ⟨stop, after⟩ := ih ran
        refine ⟨stop, ?_⟩
        rw [List.flatMap_cons, Position.advanceAll?_append, moved, Option.bind_some, after]
      · obtain rfl := Option.some.inj ran
        have impossible := succeeded.symm.trans failed
        contradiction

end Lexer

namespace Lexing

/-- Whatever lexing a source comes to is the outcome of a run over its fragments, after the event
of its beginning. -/
theorem runs_of_ofSource? {settings : LexicalSettings} {source : String} {lexing : Lexing}
    (lexed : ofSource? settings source = some lexing) :
    ∃ outcome, Lexer.Runs settings (Position.start.afterAll source.toList) {}
        (Fragment.ofSource settings.isDelimiter source.toList) outcome ∧
      lexing = { outcome with events := startEvent settings source :: outcome.events } := by
  obtain ⟨outcome, ran, same⟩ := Option.map_eq_some_iff.1 lexed
  refine ⟨outcome, ?_, same.symm⟩
  rw [← Fragment.ofPieces_cut]
  exact @Lexer.runs_of_runPieces? settings _ _
    (Text.isCut_cut settings.isDelimiter source.toList) [] {} rfl outcome ran

/-- Lexing a source past which one can move has an outcome. -/
theorem exists_ofSource?_of_advanceAll? (settings : LexicalSettings) {source : String}
    {stop : Position} (moved : Position.start.advanceAll? source.toList = some stop) :
    ∃ lexing, ofSource? settings source = some lexing := by
  obtain ⟨outcome, ran⟩ := @Lexer.exists_runPieces?_of_advanceAll? settings _ _
    (Text.isCut_cut settings.isDelimiter source.toList) [] {} rfl stop moved
  rw [ofSource?, ran]
  exact ⟨_, rfl⟩

/-- Lexing a source of bounded length has an outcome. -/
theorem exists_ofSource?_eq (settings : LexicalSettings) {source : String}
    (short : source.length ≤ UInt32.size - 2) :
    ∃ lexing, ofSource? settings source = some lexing :=
  exists_ofSource?_of_advanceAll? settings (Position.advanceAll?_start short)

/-- A source that is lexed to tokens was moved past from its beginning to its end. -/
theorem exists_advanceAll?_of_ok {settings : LexicalSettings} {source : String} {lexing : Lexing}
    (lexed : ofSource? settings source = some lexing) {tokens : TokenSequence}
    (succeeded : lexing.result = .ok tokens) :
    ∃ stop, Position.start.advanceAll? source.toList = some stop := by
  obtain ⟨outcome, ran, rfl⟩ := Option.map_eq_some_iff.1 lexed
  have moved := Lexer.exists_advanceAll?_of_ok ran succeeded
  rw [Text.flatMap_characters_cut] at moved
  exact moved

end Lexing

end LexisFront
