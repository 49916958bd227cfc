import LexisFront.Proofs.Lexing.Places
import LexisFront.Proofs.Parsing.Acceptance
import LexisFront.Proofs.Pipeline.Stages
import LexisFront.Proofs.Program.WellFormed

/-!
# The programs that runs give

What the types of a program leave open is settled on the way through a run. The kind of a token
that comes from a fragment says which texts it can have, also when an operator has lost the
characters after its glyph. The grammar asks for kinds and keeps the texts, so what such tokens
spell within the limits is well formed. Nothing here bounds the length of a source.
-/

namespace LexisFront

/-- A text that a token of a kind can have when it comes from a fragment. No fragment becomes a
terminator or a token of a reserved kind. -/
def Kind.HasText (text : String) : Kind → Prop
  | .letWord => text = "let"
  | .null => text = "null"
  | .number => Text.IsNumeral text
  | .identifier => Text.IsName text
  | .leftParen => text = "("
  | .rightParen => text = ")"
  | .assign => text = "="
  | .plus => text = "+"
  | .minus => text = "-"
  | .multiply => text = "*"
  | .divide => text = "/"
  | _ => False

/-- The text of an arithmetic operator joins operands. -/
theorem Kind.HasText.mem_glyphs {kind : Kind} {text : String} (proper : kind.HasText text)
    (joins : kind.isArithmetic = true) : text ∈ Chain.glyphs := by
  unfold isArithmetic at joins
  split at joins
  case h_5 => contradiction
  all_goals
    obtain rfl : text = _ := proper
    decide

namespace Fragment

variable {settings : LexicalSettings} {fragment : Fragment} {token : Token}

/-- A glyph is the only text of the tokens of its kind. -/
theorem hasText_glyph {glyph : Char} {kind : Kind} (found : glyphKinds.lookup glyph = some kind) :
    kind.HasText (String.ofList [glyph]) := by
  rw [lookup_glyphKinds] at found
  unfold Kind.ofGlyph? at found
  split at found
  case h_8 => contradiction
  all_goals
    obtain rfl := Option.some.inj found
    rfl

/-- Letters that are no reserved word are a name. -/
theorem hasText_wordKind {word : List Char} (nonempty : word ≠ [])
    (letters : ∀ c ∈ word, c.isAlpha = true) (short : word.length ≤ Limits.maxFragmentLength) :
    (wordKind word).HasText (String.ofList word) := by
  have spelled {text : String} (same : String.ofList word = text) : word = text.toList := by
    rw [← same, String.toList_ofList]
  unfold wordKind
  split
  · rename_i isLet
    rw [isLet, String.ofList_toList]
    rfl
  · rename_i noLet
    split
    · rename_i isNull
      rw [isNull, String.ofList_toList]
      rfl
    · rename_i noNull
      exact {
        nonempty := mt spelled nonempty
        letters := by simpa using letters
        ne_let := mt spelled noLet
        ne_null := mt spelled noNull
        short := by simpa using short }

/-- The token of a fragment has a text of its kind, whatever the fragment loses. -/
theorem hasText_of_judge_ok (nonempty : fragment.text ≠ [])
    (judged : fragment.judge settings = .ok token) : token.kind.HasText token.value := by
  have short := length_le_of_judge_ok judged
  rcases judge_ok_cases judged with ⟨glyph, rest, kind, -, found, -, rfl⟩ | ⟨digits, rfl⟩ |
    ⟨letters, rfl⟩
  · exact hasText_glyph found
  · exact {
      nonempty := fun empty => nonempty (String.ofList_eq_empty_iff.1 empty)
      digits := by simpa [Fragment.token] using digits
      short := by simpa using short }
  · exact hasText_wordKind nonempty (List.all_eq_true.1 letters) short

end Fragment

/-- The tokens before the terminator have texts of their kinds. -/
theorem Lexing.hasText_of_mem_body {settings : LexicalSettings} {source : String}
    {lexing : Lexing} (lexed : ofSource? settings source = some lexing) {tokens : TokenSequence}
    (succeeded : lexing.result = .ok tokens) {token : Token} (member : token ∈ tokens.body) :
    token.kind.HasText token.value := by
  have found := result_eq lexed
  rw [succeeded] at found
  obtain ⟨fragment, visible, judged⟩ := exists_judge_of_mem_body found.symm member
  exact Fragment.hasText_of_judge_ok (Fragment.mem_ofSource_of_mem_visible visible).2 judged

/-- An operand that a token with a text of its kind spells can be written. -/
theorem Operand.SpelledBy.wellFormed {operand : Operand} {token : Token}
    (spelled : operand.SpelledBy token) (proper : token.kind.HasText token.value) :
    operand.WellFormed := by
  obtain ⟨nodeType, value⟩ := operand
  obtain ⟨kind, rfl : value = token.value⟩ := spelled
  rcases NodeType.operandKind?_eq_some_iff.1 kind with ⟨rfl, number⟩ | ⟨rfl, identifier⟩ |
    ⟨rfl, null⟩
  · rw [number] at proper
    exact .number proper
  · rw [identifier] at proper
    exact .identifier proper
  · rw [null] at proper
    rw [show token.value = "null" from proper]
    exact .null

/-- A chain that such tokens spell can be written. -/
theorem Chain.SpelledBy.wellFormed {chain : Chain} {run : List Token}
    (spelled : chain.SpelledBy run) (proper : ∀ token ∈ run, token.kind.HasText token.value) :
    chain.WellFormed := by
  induction spelled with
  | last spelled => exact .last (spelled.wellFormed (proper _ List.mem_cons_self))
  | link spelled joins follows ih =>
    obtain ⟨first, operator, rest⟩ := List.forall_mem_cons.1 proper |>.imp_right
      List.forall_mem_cons.1
    exact .link (spelled.wellFormed first) (operator.mem_glyphs joins) (ih rest)

/-- A value that such tokens spell, within the limit, can be written. -/
theorem Statement.ValueSpelledBy.wellFormed {value : Statement} {run : List Token}
    (spelled : value.ValueSpelledBy run) (proper : ∀ token ∈ run, token.kind.HasText token.value)
    (bound : ∀ chain ∈ value.chains, chain.size ≤ Limits.maxChainLength) :
    value.ValueWellFormed := by
  cases spelled with
  | operand spelled => exact .operand (spelled.wellFormed (proper _ List.mem_cons_self))
  | chain spelled several =>
    exact .chain (spelled.wellFormed proper) several (bound _ List.mem_cons_self)

/-- A statement that such tokens spell, within the limit, can be written. -/
theorem Statement.SpelledBy.wellFormed {statement : Statement} {run : List Token}
    (spelled : statement.SpelledBy run)
    (proper : ∀ token ∈ run, token.kind.HasText token.value)
    (bound : ∀ chain ∈ statement.chains, chain.size ≤ Limits.maxChainLength) :
    statement.WellFormed := by
  cases spelled with
  | value spelled => exact .value (spelled.wellFormed proper bound)
  | @define word name assign value run opens named assigns spelled =>
    have isName : name.kind.HasText name.value := proper name (by simp)
    rw [named] at isName
    exact .define isName (spelled.wellFormed (fun token member => proper token (by simp [member]))
      bound)

/-- Every statement of a program has a run that spells it. -/
theorem Program.exists_run_of_mem {body : List Statement} {runs : List (List Token)}
    (each : List.Forall₂ Statement.SpelledBy body runs) {statement : Statement}
    (member : statement ∈ body) : ∃ run ∈ runs, statement.SpelledBy run := by
  induction each with
  | nil => contradiction
  | cons first later ih =>
    rcases List.mem_cons.1 member with rfl | member
    · exact ⟨_, List.mem_cons_self, first⟩
    · obtain ⟨run, inside, spelled⟩ := ih member
      exact ⟨run, List.mem_cons_of_mem _ inside, spelled⟩

/-- A program that such tokens spell, within the limits, is well formed. -/
theorem Program.SpelledBy.wellFormed {program : Program} {tokens : List Token}
    (spelled : program.SpelledBy tokens)
    (proper : ∀ token ∈ tokens, token.kind.HasText token.value)
    (bound : ∀ chain ∈ program.chains, chain.size ≤ Limits.maxChainLength)
    (few : program.size ≤ Limits.maxStatements) : program.WellFormed := by
  refine ⟨fun statement member => ?_, few⟩
  obtain ⟨runs, each, rfl⟩ := spelled
  obtain ⟨run, inside, spelled⟩ := exists_run_of_mem each member
  refine spelled.wellFormed (fun token within => ?_) fun chain within => ?_
  · exact proper token (List.mem_flatten_of_mem inside within)
  · exact bound chain (List.mem_flatMap_of_mem member within)

/-- The program of a token sequence whose tokens have texts of their kinds is well formed. -/
theorem Parsing.wellFormed_of_ok {tokens : TokenSequence} {program : Program}
    (parsed : (ofTokens tokens.toList).result = .ok program)
    (proper : ∀ token ∈ tokens.body, token.kind.HasText token.value) : program.WellFormed := by
  obtain ⟨body, eof, split, -, -, few, bound, spelled⟩ :=
    result_ofTokensWithin_eq_ok_iff.1 parsed
  obtain ⟨rfl, -⟩ : tokens.body = body ∧ [tokens.last] = [eof] := List.append_inj' split rfl
  exact spelled.wellFormed proper bound few

namespace FrontRun

/-- What can be seen of the result of a source is seen of a result that its run has. -/
theorem exists_result_of_view {α : Type} {settings : LexicalSettings} {source : String}
    {view : FrontResult → α} {seen : α}
    (outcome : (ofSource? settings source).map (·.result.toOption.map view) = some (some seen)) :
    ∃ run result, ofSource? settings source = some run ∧ run.result = .ok result ∧
      view result = seen := by
  obtain ⟨run, ran, found⟩ := Option.map_eq_some_iff.1 outcome
  cases succeeded : run.result with
  | error error => simp [succeeded, Except.toOption] at found
  | ok result =>
    rw [succeeded] at found
    exact ⟨run, result, ran, succeeded, Option.some.inj found⟩

/-- A program that some run gives, of a source under any setting or of a file. -/
inductive Produces : Program → Prop
  /-- A run of a source gives its program. -/
  | ofSource {settings : LexicalSettings} {source : String} {run : FrontRun} {result : FrontResult}
    (ran : ofSource? settings source = some run) (succeeded : run.result = .ok result) :
    Produces result.program
  /-- So does a run of a file. -/
  | ofFile {environment : Environment} {path : String} {entry : Entry} {run : FrontRun}
    {result : FrontResult} (ran : ofFile? environment path entry = some run)
    (succeeded : run.result = .ok result) : Produces result.program

/-- A run that succeeds after lexing some source gives a well-formed program. -/
theorem wellFormed_of_ofLexing {settings : LexicalSettings} {source : String} {lexing : Lexing}
    (lexed : Lexing.ofSource? settings source = some lexing) {name : String}
    {file : Option FileInfo} {before events : List Event} {result : FrontResult}
    (succeeded : (ofLexing name file before { lexing with events }).result = .ok result) :
    result.program.WellFormed := by
  obtain ⟨read, parsed⟩ := exists_tokens_of_ok succeeded
  exact Parsing.wellFormed_of_ok parsed fun _ => Lexing.hasText_of_mem_body lexed read

/-- Every program that a run gives is well formed. -/
theorem Produces.wellFormed {program : Program} (produced : Produces program) :
    program.WellFormed := by
  cases produced with
  | ofSource ran succeeded =>
    obtain ⟨lexing, before, lexed, rfl⟩ := exists_lexing_of_ofSource? ran
    exact wellFormed_of_ofLexing lexed succeeded
  | @ofFile environment path entry run result ran succeeded =>
    simp only [ofFile?, lexFile?, Option.map_map] at ran
    cases loaded : (Loading.ofEntry (.ofEnvironment environment) path entry).result with
    | error error =>
      rw [loaded] at ran
      obtain rfl := Option.some.inj ran
      contradiction
    | ok file =>
      rw [loaded] at ran
      obtain ⟨lexing, lexed, rfl⟩ := Option.map_eq_some_iff.1 ran
      exact wellFormed_of_ofLexing lexed succeeded

/-- The program that a run gives is well formed, for every source and under every setting: each
value is an operand or a chain of at least two operands and of no more than allowed, each
declaration defines a name by such a value, each text is one that the node can have, and there are
no more statements than allowed. -/
theorem program_wellFormed {settings : LexicalSettings} {source : String} {run : FrontRun}
    {result : FrontResult} (ran : ofSource? settings source = some run)
    (succeeded : run.result = .ok result) : result.program.WellFormed := by
  obtain ⟨lexing, before, lexed, rfl⟩ := exists_lexing_of_ofSource? ran
  obtain ⟨read, parsed⟩ := exists_tokens_of_ok succeeded
  exact Parsing.wellFormed_of_ok parsed fun _ => Lexing.hasText_of_mem_body lexed read

/-- The sum of this definition has lost a letter after its operator, and a chain follows on the
next line. -/
theorem program_wellFormed_truncated :
    let program : Program := ⟨[
      .define "n" (.chain (.link (.number "12") "+" (.last (.identifier "x")))),
      .chain (.link .null "*" (.last (.identifier "n")))]⟩
    ∃ run result, ofSource? ⟨false, true, true, true⟩ "let n = 12 +é x\nnull * n" = some run ∧
      run.result = .ok result ∧ result.program = program ∧ program.WellFormed := by
  intro program
  have outcome : (ofSource? ⟨false, true, true, true⟩ "let n = 12 +é x\nnull * n").map
      (·.result.toOption.map (·.program)) = some (some program) := rfl
  obtain ⟨run, ran, found⟩ := Option.map_eq_some_iff.1 outcome
  cases succeeded : run.result with
  | error error => simp [succeeded, Except.toOption] at found
  | ok result =>
    rw [succeeded] at found
    have same : result.program = program := Option.some.inj found
    exact ⟨run, result, ran, succeeded, same, same ▸ program_wellFormed ran succeeded⟩

end FrontRun

end LexisFront
