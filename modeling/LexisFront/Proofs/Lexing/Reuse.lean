import LexisFront.Fragment.Analyzer
import LexisFront.Proofs.Lexing.Reference

/-!
# Using an analyzer again

An analyzer is asked to lex one source after the other, with settings that may change in between.
Whatever it was asked before, its next run is the run of a new analyzer with the settings that were
set last. A run over a source whose places leave their range has no outcome; of an analyzer that is
used after it nothing is known but its settings, and that is enough.

Two of the settings only say what is reported: whether kinds are counted and whether a dropped
character is worth a warning. Runs whose settings differ in these alone stay alike fragment by
fragment in all that matters: their places, their tokens and their counters, except for those of the
kinds.
-/

namespace LexisFront

namespace Tally

/-- The counters apart from those of the kinds. -/
def withoutKinds (tally : Tally) : Tally :=
  { tally with kindCounts := [] }

/-- The length of a fragment does not matter to the counters of the kinds. -/
theorem withoutKinds_noteLength (tally : Tally) (length : Nat) :
    (tally.noteLength length).withoutKinds = tally.withoutKinds.noteLength length := by
  unfold noteLength
  split <;> rfl

/-- Dropped characters do not matter to the counters of the kinds. -/
theorem withoutKinds_noteDropped (tally : Tally) (dropped : List Char) :
    (tally.noteDropped dropped).withoutKinds = tally.withoutKinds.noteDropped dropped := by
  unfold noteDropped
  split <;> rfl

/-- Apart from the counters of the kinds, a token is counted in one way only. -/
theorem withoutKinds_countToken (tally : Tally) (detailed : Bool) (kind : Kind) :
    (tally.countToken detailed kind).withoutKinds = tally.withoutKinds.countKind kind := by
  cases detailed <;> cases kind <;> rfl

end Tally

/-- Settings that cut and judge alike: they may differ in what is reported. -/
structure LexicalSettings.JudgesAs (settings others : LexicalSettings) : Prop where
  /-- Both are strict about operators, or neither is. -/
  strictOperators : settings.strictOperators = others.strictOperators
  /-- Line ends delimit under both, or under neither. -/
  splitOnNewlines : settings.splitOnNewlines = others.splitOnNewlines

/-- Two outcomes are the same tokens or error, with the same counters apart from those of the
kinds. -/
structure Lexing.Agrees (lexing other : Lexing) : Prop where
  /-- The results are the same. -/
  result : lexing.result = other.result
  /-- The counters are the same. -/
  tally : lexing.tally.withoutKinds = other.tally.withoutKinds

/-- Two lexers stand at the same place with the same tokens, and with the same counters apart from
those of the kinds. -/
structure Lexer.Agrees (lexer other : Lexer) : Prop where
  /-- The places are the same. -/
  cursor : lexer.cursor = other.cursor
  /-- The tokens are the same. -/
  run : lexer.run = other.run
  /-- The counters are the same. -/
  tally : lexer.tally.withoutKinds = other.tally.withoutKinds

variable {settings others : LexicalSettings}

/-- Settings that judge alike have the same delimiters. -/
theorem LexicalSettings.JudgesAs.isDelimiter_eq (same : settings.JudgesAs others) :
    settings.isDelimiter = others.isDelimiter := by
  funext c
  rw [isDelimiter, isDelimiter, same.splitOnNewlines]

/-- Settings that judge alike find the same contribution in a fragment. -/
theorem Contribution.ofFragment?_eq_of_judgesAs (same : settings.JudgesAs others) (index : Nat)
    (span : Span) (fragment : List Char) :
    ofFragment? settings index span fragment = ofFragment? others index span fragment := by
  rw [ofFragment?, ofFragment?, same.strictOperators]

namespace Lexer

/-- What two lexers do agrees: neither does anything, both go on in agreement, or both end with
outcomes that agree. -/
abbrev StepAgrees : Option Step → Option Step → Prop :=
  Option.Rel (Sum.LiftRel Agrees Lexing.Agrees)

/-- Lexers that agree still do after a fragment. -/
theorem Agrees.takeFragment? {lexer other : Lexer} (agrees : lexer.Agrees other)
    (same : settings.JudgesAs others) (index : Nat) (span : Span) (fragment : List Char) :
    StepAgrees (takeFragment? settings lexer index span fragment)
      (takeFragment? others other index span fragment) := by
  obtain ⟨cursor, run, tally, warnings⟩ := lexer
  obtain ⟨otherCursor, otherRun, otherTally, otherWarnings⟩ := other
  obtain ⟨rfl, rfl, tallies⟩ := agrees
  have measured : (tally.noteLength fragment.length).withoutKinds =
      (otherTally.noteLength fragment.length).withoutKinds := by
    rw [Tally.withoutKinds_noteLength, Tally.withoutKinds_noteLength]
    exact congrArg (·.noteLength fragment.length) tallies
  simp only [Lexer.takeFragment?, Contribution.ofFragment?_eq_of_judgesAs same]
  by_cases full : Limits.maxTokenCount < run.size + 2
  · rw [if_pos full, if_pos full]
    exact .some (.inr ⟨rfl, tallies⟩)
  · rw [if_neg full, if_neg full]
    cases Contribution.ofFragment? others index span fragment with
    | none => exact .none
    | some contribution =>
      cases contribution with
      | error error => exact .some (.inr ⟨rfl, measured⟩)
      | token token dropped =>
        have counted (detailed also : Bool) :
            (((tally.noteLength fragment.length).noteDropped dropped).countToken detailed
              token.kind).withoutKinds =
            (((otherTally.noteLength fragment.length).noteDropped dropped).countToken also
              token.kind).withoutKinds := by
          rw [Tally.withoutKinds_countToken, Tally.withoutKinds_countToken,
            Tally.withoutKinds_noteDropped, Tally.withoutKinds_noteDropped, measured]
        cases pushed : run.push? token with
        | none =>
          simp only [pushed]
          exact .none
        | some later =>
          simp only [pushed]
          exact .some (.inl ⟨rfl, rfl, counted _ _⟩)

/-- Lexers that agree still do after a piece. -/
theorem Agrees.step? {lexer other : Lexer} (agrees : lexer.Agrees other)
    (same : settings.JudgesAs others) (piece : Text.Piece) :
    StepAgrees (step? settings lexer piece) (step? others other piece) := by
  obtain ⟨start, run, tally, warnings⟩ := lexer
  obtain ⟨otherStart, otherRun, otherTally, otherWarnings⟩ := other
  obtain ⟨rfl, rfl, tallies⟩ := agrees
  have numbers := congrArg Tally.fragmentsSeen tallies
  have seen := congrArg Tally.seeFragment tallies
  have skipped := congrArg Tally.skipFragment seen
  change tally.fragmentsSeen = otherTally.fragmentsSeen at numbers
  cases first : start.advanceAll? piece.text with
  | none =>
    simp only [Lexer.step?, first]
    exact .none
  | some stop =>
    cases last : stop.advanceAll? piece.delimiter.toList with
    | none =>
      simp only [Lexer.step?, first, last]
      exact .none
    | some cursor =>
      simp only [Lexer.step?, first, last]
      by_cases blank : Text.isBlank piece.text = true
      · rw [if_pos blank, if_pos blank]
        exact .some (.inl ⟨rfl, rfl, skipped⟩)
      · rw [if_neg blank, if_neg blank]
        cases Span.between? start stop with
        | none => exact .none
        | some span =>
          have passed : Agrees ⟨cursor, run, tally.seeFragment, warnings⟩
              ⟨cursor, run, otherTally.seeFragment, otherWarnings⟩ := ⟨rfl, rfl, seen⟩
          rw [numbers]
          exact passed.takeFragment? same otherTally.fragmentsSeen span piece.text

/-- Lexers that agree end with outcomes that agree. -/
theorem Agrees.finish {lexer other : Lexer} (agrees : lexer.Agrees other) :
    lexer.finish.Agrees other.finish := by
  obtain ⟨cursor, run, tally, warnings⟩ := lexer
  obtain ⟨otherCursor, otherRun, otherTally, otherWarnings⟩ := other
  obtain ⟨rfl, rfl, tallies⟩ := agrees
  let size := (run.finish (.emptyAt cursor)).size
  exact ⟨rfl, congrArg (fun tally : Tally => { tally with totalTokens := size }) tallies⟩

/-- Lexers that agree come to outcomes that agree over the same pieces. -/
theorem Agrees.runPieces? {lexer other : Lexer} (agrees : lexer.Agrees other)
    (same : settings.JudgesAs others) (pieces : List Text.Piece) :
    Option.Rel Lexing.Agrees (runPieces? settings lexer pieces)
      (runPieces? others other pieces) := by
  induction pieces generalizing lexer other with
  | nil => exact .some agrees.finish
  | cons piece pieces ih =>
    have stepped := agrees.step? same piece
    rw [Lexer.runPieces?, Lexer.runPieces?]
    generalize Lexer.step? settings lexer piece = first,
      Lexer.step? others other piece = second at stepped ⊢
    cases stepped with
    | none => exact .none
    | some alike =>
      cases alike with
      | inl later => exact ih later
      | inr ended => exact .some ended

end Lexer

/-- Settings that judge alike lex a source to outcomes that agree. -/
theorem Lexing.agrees_of_judgesAs (same : settings.JudgesAs others) (source : String) :
    Option.Rel Agrees (ofSource? settings source) (ofSource? others source) := by
  have fresh : Lexer.Agrees {} {} := ⟨rfl, rfl, rfl⟩
  have ran := fresh.runPieces? same (Text.cut others.isDelimiter source.toList)
  rw [ofSource?, ofSource?, same.isDelimiter_eq]
  generalize Lexer.runPieces? settings {} (Text.cut others.isDelimiter source.toList) = first,
    Lexer.runPieces? others {} (Text.cut others.isDelimiter source.toList) = second at ran ⊢
  cases ran with
  | none => exact .none
  | some agrees => exact .some ⟨agrees.result, agrees.tally⟩

namespace Analyzer

/-- The analyzer that has settings and has not lexed anything. -/
def fresh (settings : LexicalSettings) : Analyzer := { settings }

/-- Two runs have the same result and leave the same counters, apart from those of the kinds. -/
def ReportsAlike (run other : Lexing × Analyzer) : Prop :=
  run.1.result = other.1.result ∧ run.2.tally.withoutKinds = other.2.tally.withoutKinds

/-- What an analyzer is asked to do. -/
inductive Call where
  /-- Change the settings. -/
  | setSettings (settings : LexicalSettings)
  /-- Lex a source. -/
  | lex (source : String)
deriving DecidableEq, Repr

/-- The settings that a call sets. -/
def Call.settings? : Call → Option LexicalSettings
  | setSettings settings => some settings
  | lex _ => none

/-- The settings after calls: those that were set last, or else the first ones. -/
def currentSettings (first : LexicalSettings) (calls : List Call) : LexicalSettings :=
  (calls.filterMap Call.settings?).getLast?.getD first

/-- What one call does to an analyzer. -/
inductive Performs : Analyzer → Call → Analyzer → Prop
  /-- Settings are set. -/
  | setSettings {analyzer : Analyzer} {settings : LexicalSettings} :
      Performs analyzer (.setSettings settings) (analyzer.setSettings settings)
  /-- A source is lexed, to tokens or to an error. -/
  | lex {analyzer later : Analyzer} {source : String} {lexing : Lexing}
      (lexed : analyzer.lex? source = some (lexing, later)) :
      Performs analyzer (.lex source) later
  /-- A source has no outcome, which leaves any counters. -/
  | abort {analyzer : Analyzer} {source : String} (aborted : analyzer.lex? source = none)
      (tally : Tally) : Performs analyzer (.lex source) { analyzer with tally }

/-- What calls, one after the other, do to an analyzer. -/
inductive PerformsAll : Analyzer → List Call → Analyzer → Prop
  /-- No call changes nothing. -/
  | nil {analyzer : Analyzer} : PerformsAll analyzer [] analyzer
  /-- The first call comes before the others. -/
  | cons {analyzer next last : Analyzer} {call : Call} {calls : List Call}
      (first : Performs analyzer call next) (others : PerformsAll next calls last) :
      PerformsAll analyzer (call :: calls) last

/-- A call leaves the settings that it sets, or else those that were there. -/
theorem Performs.settings_eq {analyzer later : Analyzer} {call : Call}
    (performs : Performs analyzer call later) :
    later.settings = call.settings?.getD analyzer.settings := by
  cases performs with
  | setSettings => rfl
  | lex lexed =>
    obtain ⟨lexing, -, same⟩ := Option.map_eq_some_iff.1 lexed
    rw [← (Prod.mk.inj same).2]
    rfl
  | abort aborted tally => rfl

/-- Calls leave the settings that were set last. -/
theorem PerformsAll.settings_eq {analyzer last : Analyzer} {calls : List Call}
    (performs : PerformsAll analyzer calls last) :
    last.settings = currentSettings analyzer.settings calls := by
  induction performs with
  | nil => rfl
  | @cons analyzer next last call calls first others ih =>
    rw [ih, first.settings_eq]
    cases call with
    | setSettings settings => simp [currentSettings, Call.settings?, List.getLast?_cons]
    | lex source => simp [currentSettings, Call.settings?]

/-- The counters of an analyzer do not matter to its next run. -/
theorem lex?_eq_of_settings_eq {analyzer other : Analyzer}
    (same : analyzer.settings = other.settings) (source : String) :
    analyzer.lex? source = other.lex? source := by
  rw [lex?, lex?, same]

/-- Analyzers whose settings judge alike report alike. -/
theorem reportsAlike_of_judgesAs (same : settings.JudgesAs others) (source : String) :
    Option.Rel ReportsAlike ((fresh settings).lex? source) ((fresh others).lex? source) := by
  have agrees := Lexing.agrees_of_judgesAs same source
  change Option.Rel _ ((Lexing.ofSource? settings source).map _)
    ((Lexing.ofSource? others source).map _)
  generalize Lexing.ofSource? settings source = first,
    Lexing.ofSource? others source = second at agrees ⊢
  cases agrees with
  | none => exact .none
  | some agrees => exact .some ⟨agrees.result, agrees.tally⟩

/-- An analyzer carries nothing over from the calls before. Its next run has the outcome, and leaves
the counters, that a fresh analyzer has and leaves with the settings that were set last. And what is
reported does not matter to the outcome: fresh analyzers with settings that cut and judge alike have
the same tokens or the same error, and the same counters apart from those of the kinds. -/
theorem lex?_eq_fresh_of_performsAll (start analyzer : Analyzer) (calls : List Call)
    (performs : PerformsAll start calls analyzer) (source : String) :
    analyzer.lex? source = (fresh (currentSettings start.settings calls)).lex? source ∧
      ∀ settings others : LexicalSettings, settings.JudgesAs others →
        Option.Rel ReportsAlike ((fresh settings).lex? source) ((fresh others).lex? source) :=
  ⟨lex?_eq_of_settings_eq performs.settings_eq source,
    fun _ _ same => reportsAlike_of_judgesAs same source⟩

/-- The second source of this history is an error that leaves an identifier in the counters, under
settings that were set after the first one; the run after it counts none. -/
theorem lex?_eq_fresh_of_performsAll_after_error :
    ∃ analyzer, PerformsAll (fresh ⟨false, true, true, false⟩)
        [.lex "a +b", .setSettings ⟨true, true, true, false⟩, .lex "b 3.1"] analyzer ∧
      analyzer.tally.identifierTokens = 1 ∧
      analyzer.lex? "1 +1" = (fresh ⟨true, true, true, false⟩).lex? "1 +1" ∧
      (analyzer.lex? "1 +1").map (·.2.tally.identifierTokens) = some 0 ∧
      Option.Rel ReportsAlike ((fresh ⟨true, true, true, false⟩).lex? "1 +1")
        ((fresh ⟨true, false, false, false⟩).lex? "1 +1") := by
  obtain ⟨first, lexed⟩ :=
    @Lexing.exists_ofSource?_eq ⟨false, true, true, false⟩ "a +b" (by decide)
  obtain ⟨second, relexed⟩ :=
    @Lexing.exists_ofSource?_eq ⟨true, true, true, false⟩ "b 3.1" (by decide)
  have counted : second.tally.identifierTokens = 1 := by
    have tallied : (Lexing.ofSource? ⟨true, true, true, false⟩ "b 3.1").map
        (·.tally.identifierTokens) = some 1 := by decide
    rw [relexed] at tallied
    exact Option.some.inj tallied
  have firstRun : (fresh ⟨false, true, true, false⟩).lex? "a +b" =
      some (first, ⟨⟨false, true, true, false⟩, first.tally⟩) :=
    congrArg (Option.map _) lexed
  have secondRun : (Analyzer.mk ⟨true, true, true, false⟩ first.tally).lex? "b 3.1" =
      some (second, ⟨⟨true, true, true, false⟩, second.tally⟩) :=
    congrArg (Option.map _) relexed
  have performs : PerformsAll (fresh ⟨false, true, true, false⟩)
      [.lex "a +b", .setSettings ⟨true, true, true, false⟩, .lex "b 3.1"]
      ⟨⟨true, true, true, false⟩, second.tally⟩ :=
    .cons (.lex firstRun) (.cons .setSettings (.cons (.lex secondRun) .nil))
  obtain ⟨same, alike⟩ := lex?_eq_fresh_of_performsAll _ _ _ performs "1 +1"
  refine ⟨_, performs, counted, same, ?_, alike _ _ ⟨rfl, rfl⟩⟩
  rw [same]
  decide

end Analyzer

end LexisFront
