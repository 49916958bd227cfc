import LexisFront.CommandLine
import LexisFront.Proofs.Pipeline.Totality
import LexisFront.Proofs.Source.Faults

/-!
# Runs of files

A file is run by loading it and then running its text as a source, whose line ends always delimit
fragments. The same is said three times in the front end: a run of a source, a run of a file, and
the run that stops after lexing each put the stages together on their own. Here they are shown to
agree. The first fault of a path is the error of both runs of a file; a file without faults gives
what its text gives.
-/

namespace LexisFront

variable {environment : Environment} {path : String}

namespace FrontRun

/-- Where the tokens come from and what is told on the way do not matter to the result of a run;
only the file that it names does. -/
theorem result_ofLexing_file (name : String) (file : Option FileInfo) (before : List Event)
    (lexing : Lexing) (events : List Event) (name' : String) (before' : List Event) :
    (ofLexing name file before { lexing with events }).result =
      (ofLexing name' none before' lexing).result.map fun result => { result with file } := by
  rcases result_cases name' none before' lexing with ⟨error, lexed, same⟩ |
    ⟨tokens, lexed, ⟨error, parsed, same⟩ | ⟨program, parsed, same⟩⟩
  · simp only [ofLexing, lexed, Except.map]
  · simp only [ofLexing, lexed, parsed, Except.map]
  · simp only [ofLexing, lexed, parsed, Except.map]

/-- A file that cannot be loaded has that error as the result of its run. -/
theorem exists_ofFile?_of_error {entry : Entry} {error : FileError}
    (failed : (Loading.ofEntry (.ofEnvironment environment) path entry).result = .error error) :
    ∃ run, ofFile? environment path entry = some run ∧
      run.result = .error (.loading error) := by
  simp only [ofFile?, failed]
  exact ⟨_, rfl, rfl⟩

/-- A file that is loaded has the result of running its text, and names the file. -/
theorem exists_ofFile?_of_ok {entry : Entry} {file : SourceFile}
    (loaded : (Loading.ofEntry (.ofEnvironment environment) path entry).result = .ok file)
    {sourceRun : FrontRun}
    (ran : ofSource? (.forFile environment) file.source = some sourceRun) :
    ∃ run, ofFile? environment path entry = some run ∧
      run.result = sourceRun.result.map fun result => { result with file := some file.info } := by
  obtain ⟨lexing, before, lexed, rfl⟩ := exists_lexing_of_ofSource? ran
  simp only [ofFile?, loaded, lexFile?, lexed, Option.map_some]
  exact ⟨_, rfl, result_ofLexing_file path (some file.info) _ lexing _ "<source>" before⟩

end FrontRun

namespace CommandLine

variable {files : String → Entry} {options : Options}

/-- A file that cannot be loaded has that error as the result of lexing it alone. -/
theorem exists_runTokens?_of_error (named : options.file = some path) {error : FileError}
    (failed : (Loading.ofEntry (.ofEnvironment environment) path (files path)).result =
      .error error) :
    ∃ told, runTokens? environment files options = some (.error (.loading error), told) := by
  simp only [runTokens?, named, failed]
  exact ⟨_, rfl⟩

/-- A file that is loaded has the result of lexing its text. -/
theorem exists_runTokens?_of_ok (named : options.file = some path) {file : SourceFile}
    (loaded : (Loading.ofEntry (.ofEnvironment environment) path (files path)).result = .ok file)
    {lexing : Lexing}
    (lexed : Lexing.ofSource? (.forFile environment) file.source = some lexing) :
    ∃ told, runTokens? environment files options =
      some ((lexing.result.mapError .lexing).map (tokensOutput options), told) := by
  simp only [runTokens?, named, loaded, FrontRun.lexFile?, lexed, Option.map_some]
  refine ⟨_, congrArg some (Prod.ext ?_ rfl)⟩
  cases lexing.result <;> rfl

end CommandLine

namespace FrontRun

/-- A run of a file, and one that stops after lexing, fail with the first fault of the path.
Without a fault the bytes of the file are those of a text, and the runs give what running and
lexing that text give, with line ends as delimiters; a result names the file and its size. -/
theorem ofFile?_agrees_with_source (environment : Environment) (files : String → Entry)
    (path : String) (options : Options) :
    let settings : LexicalSettings :=
      { LexicalSettings.ofEnvironment environment with splitOnNewlines := true }
    ∃ run output told, ofFile? environment path (files path) = some run ∧
      CommandLine.runTokens? environment files { options with file := some path } =
        some (output, told) ∧
      ((∃ error, Loading.FirstFault (.ofEnvironment environment) path (files path) error ∧
          run.result = .error (.loading error) ∧ output = .error (.loading error)) ∨
        ∃ fullPath source info lexing sourceRun,
          (∀ priority error,
            ¬Loading.Fault (.ofEnvironment environment) path (files path) priority error) ∧
          files path = .file fullPath source.toUTF8 ∧ info.size = source.utf8ByteSize ∧
          Lexing.ofSource? settings source = some lexing ∧
          ofSource? settings source = some sourceRun ∧
          run.result = sourceRun.result.map (fun result => { result with file := some info }) ∧
          output = (lexing.result.mapError .lexing).map (CommandLine.tokensOutput options)) := by
  intro settings
  rcases Loading.result_cases (.ofEnvironment environment) path (files path) with
    ⟨error, failed, first⟩ | ⟨fullPath, source, info, found, loaded, size, fits, faultless⟩
  · obtain ⟨run, ran, result⟩ := exists_ofFile?_of_error failed
    obtain ⟨told, stopped⟩ := @CommandLine.exists_runTokens?_of_error environment path files
      { options with file := some path } rfl error failed
    exact ⟨run, _, told, ran, stopped, .inl ⟨error, first, result, rfl⟩⟩
  · have short := Source.length_le_of_utf8ByteSize_le fits
    obtain ⟨lexing, lexed⟩ := Lexing.exists_ofSource?_eq settings short
    obtain ⟨sourceRun, sourceRan⟩ := exists_run settings short
    obtain ⟨run, ran, result⟩ := exists_ofFile?_of_ok loaded sourceRan
    obtain ⟨told, stopped⟩ := @CommandLine.exists_runTokens?_of_ok environment path files
      { options with file := some path } rfl ⟨source, info⟩ loaded lexing lexed
    exact ⟨run, _, told, ran, stopped, .inr ⟨fullPath, source, info, lexing, sourceRun, faultless,
      found, size, lexed, sourceRan, result, rfl⟩⟩

end FrontRun

end LexisFront
