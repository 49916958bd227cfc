import LexisFront.Fragment.Lexer

/-!
# A reusable lexer

An analyzer keeps settings from one source to the next and shows the tally of the last run.
Every run starts from an empty tally, so nothing else carries over.
-/

namespace LexisFront

/-- Settings that are used again, with the tally of the last run. -/
structure Analyzer where
  /-- The settings of the next run. -/
  settings : LexicalSettings
  /-- The counters of the last run. -/
  tally : Tally := {}
deriving DecidableEq, Repr

namespace Analyzer

/-- Changes the settings of the next run. -/
def setSettings (analyzer : Analyzer) (settings : LexicalSettings) : Analyzer :=
  { analyzer with settings }

/-- Lexes a source and keeps the tally of the run. -/
def lex? (analyzer : Analyzer) (source : String) : Option (Lexing × Analyzer) :=
  (Lexing.ofSource? analyzer.settings source).map fun lexing =>
    (lexing, { analyzer with tally := lexing.tally })

end Analyzer

end LexisFront
