import LexisFront.Proofs.Parsing.Refusal
import LexisFront.Proofs.Parsing.Walk

/-!
# A parse ends within its tokens

Tokens that end in their only terminator are walked without ever leaving them: every look at the
cursor finds a token, each turn of a loop passes one, and so the walk ends, with what the parse
of the tokens gives. Its cursor is where the readers are: at the head of each loop they come, from
the tokens that the cursor faces, to that same result, because a walk ends in one way only.

Other tokens are refused before the walk begins. A sequence that was built token by token is never
among those, since the only terminator in it is the one that finished it.
-/

namespace LexisFront

open StateTransition (Reaches Reaches₁)

namespace Parser

namespace Stage

/-- The number of statements that are begun and not complete. -/
def begun : Stage → Nat
  | statement | ended _ => 0
  | _ => 1

/-- At most one statement is begun. -/
theorem begun_le_one (stage : Stage) : stage.begun ≤ 1 := by
  cases stage <;> simp [begun]

end Stage

namespace Walk

variable {limits : ParseLimits} {body : List Token} {eof : Token}

/-- The parse of a walk stays before an index, always finds a token, and passes one with every
turn of a loop. -/
structure Steady (limits : ParseLimits) (origin : Walk) (last : Nat) : Prop where
  /-- The cursor never goes back. -/
  onward : ∀ walk later, Reaches (next? limits) origin walk → Reaches (next? limits) walk later →
    walk.cursor.position ≤ later.cursor.position
  /-- The cursor never goes past the index. -/
  inside : ∀ walk, Reaches (next? limits) origin walk → walk.cursor.position ≤ last
  /-- There is always a token at the cursor. -/
  present : ∀ walk, Reaches (next? limits) origin walk → walk.cursor.current? ≠ none
  /-- From one statement to the next the cursor grows. -/
  statements : ∀ walk later, Reaches (next? limits) origin walk →
    Reaches₁ (next? limits) walk later → walk.stage = .statement → later.stage = .statement →
    walk.cursor.position < later.cursor.position
  /-- From one turn of the loop over a chain to the next the cursor grows. -/
  links : ∀ walk later name? first passed laterName? laterFirst laterPassed,
    Reaches (next? limits) origin walk → Reaches₁ (next? limits) walk later →
    walk.stage = .link name? first passed →
    later.stage = .link laterName? laterFirst laterPassed →
    walk.cursor.position < later.cursor.position

/-- A walk begins before all tokens. -/
theorem faces_start (proper : ∀ token ∈ body, token.isEof = false) (ends : eof.isEof = true) :
    (start (body ++ [eof])).cursor.Faces body eof :=
  ⟨rfl, proper, ends⟩

/-- Between two walks of a run at one stage the cursor grows. -/
theorem position_lt_of_reaches₁ {walk later : Walk} (run : Reaches₁ (next? limits) walk later)
    (same : walk.stage.rank = later.stage.rank) :
    walk.cursor.position < later.cursor.position := by
  have before := before_of_reaches₁ run
  unfold Before at before
  omega

/-- Over tokens that end in their only terminator the parse is steady, up to that terminator. -/
theorem steady_start (proper : ∀ token ∈ body, token.isEof = false) (ends : eof.isEof = true) :
    Steady limits (start (body ++ [eof])) body.length where
  onward walk later _ run := position_le_of_reaches run
  inside walk run := by
    obtain ⟨same, rest, faces⟩ := faces_of_reaches (faces_start proper ends) run
    have place := faces.position_add
    have size : (start (body ++ [eof])).cursor.tokens.size = body.length + 1 := by
      simp [start, Cursor.ofArray]
    rw [same, size] at place
    omega
  present walk run := by
    obtain ⟨-, rest, faces⟩ := faces_of_reaches (faces_start proper ends) run
    simp [faces.current?]
  statements walk later _ run stage laterStage :=
    position_lt_of_reaches₁ run (by rw [stage, laterStage])
  links walk later _ _ _ _ _ _ _ run stage laterStage :=
    position_lt_of_reaches₁ run (by rw [stage, laterStage]; rfl)

/-- The complete statements of a walk and the one that it is in are not too many. -/
def HasRoom (limits : ParseLimits) (walk : Walk) : Prop :=
  walk.done.size + walk.stage.begun ≤ limits.statements

/-- Before the first token there is room for every statement. -/
theorem hasRoom_start (tokens : List Token) : (start tokens).HasRoom limits :=
  Nat.zero_le limits.statements

/-- Passing something inside a statement leaves room. -/
theorem hasRoom_take {α : Type} {walk : Walk} {passed : Except ParseError (α × Cursor)}
    {onward : α → Stage} (room : walk.done.size + 1 ≤ limits.statements) :
    (walk.take passed onward).HasRoom limits := by
  have same : (walk.take passed onward).done = walk.done := by
    cases passed with
    | error problem => rfl
    | ok found => rfl
  have bound := (walk.take passed onward).stage.begun_le_one
  rw [HasRoom, same]
  omega

/-- A step leaves room. -/
theorem HasRoom.of_next? {walk later : Walk} (room : walk.HasRoom limits)
    (stepped : walk.next? limits = some later) : later.HasRoom limits := by
  obtain ⟨cursor, done, stage⟩ := walk
  cases stage with
  | statement =>
    -- A statement is begun only when there are fewer than allowed.
    simp only [next?] at stepped
    split_ifs at stepped
    all_goals
      obtain rfl := Option.some.inj stepped
      simp only [HasRoom, Stage.begun] at room ⊢
      omega
  | keyword | name | assign | first | operand =>
    obtain rfl := Option.some.inj stepped
    exact hasRoom_take room
  | link name? first links =>
    simp only [next?] at stepped
    split at stepped
    · obtain rfl := Option.some.inj stepped
      exact room
    · obtain rfl := Option.some.inj stepped
      rw [HasRoom, Array.size_push]
      exact room
  | ended failure => contradiction

/-- Along a run there is room for every statement. -/
theorem HasRoom.of_reaches {walk later : Walk} (room : walk.HasRoom limits)
    (run : Reaches (next? limits) walk later) : later.HasRoom limits := by
  induction run with
  | refl => exact room
  | tail _ stepped ih => exact ih.of_next? stepped

/-- What is left of a parse at the head of one of its loops: the readers go on with the tokens that
the cursor faces. -/
def remaining? (limits : ParseLimits) (eof : Token) (rest : List Token) (walk : Walk) :
    Option Parsing :=
  match walk.stage with
  | .statement =>
    some (readStatements limits eof.span walk.done (limits.statements - walk.done.size) rest)
  | .link name? first links =>
    match readLinks limits eof.span (links.length + 1) links rest with
    | .error error => some ⟨walk.done, some error⟩
    | .ok (all, after) =>
      some (readStatements limits eof.span
        (walk.done.push (statementOf name? (.ofParts first all)))
        (limits.statements - (walk.done.size + 1)) after)
  | _ => none

/-- From the head of a loop a walk comes to what the readers make of the tokens left. -/
theorem reaches_of_remaining? {walk : Walk} {rest : List Token} {parsing : Parsing}
    (faces : walk.cursor.Faces rest eof) (room : walk.HasRoom limits)
    (left : walk.remaining? limits eof rest = some parsing) :
    ∃ cursor, Reaches (Walk.next? limits) walk
      ⟨cursor, parsing.statements, .ended parsing.failure⟩ := by
  obtain ⟨cursor, done, stage⟩ := walk
  cases stage with
  | statement =>
    obtain rfl := Option.some.inj left
    have enough : done.size ≤ limits.statements := room
    obtain ⟨final, -, run⟩ := reaches_readStatements faces (Nat.sub_add_cancel enough)
    exact ⟨final, run⟩
  | link name? first links =>
    have enough : done.size + 1 ≤ limits.statements := room
    have comes : ComesTo limits ⟨cursor, done, .link name? first links⟩ eof _ :=
      comesTo_readLinks rfl faces
    simp only [remaining?] at left
    split at left
    · rename_i problem found
      obtain rfl := Option.some.inj left
      rw [found] at comes
      exact comes
    · rename_i all after found
      obtain rfl := Option.some.inj left
      rw [found] at comes
      obtain ⟨middle, faced, run⟩ := comes
      have more : limits.statements - (done.size + 1) +
          (done.push (statementOf name? (.ofParts first all))).size = limits.statements := by
        rw [Array.size_push]
        omega
      obtain ⟨final, -, others⟩ := reaches_readStatements faced more
      exact ⟨final, run.trans others⟩
  | _ => contradiction

end Walk

end Parser

/-- A token that is not expected is not an error of the tokens as a whole. -/
theorem Expectation.refusal_ne (expectation : Expectation) (token : Token) :
    expectation.refusal token ≠ .emptyTokenStream ∧
      expectation.refusal token ≠ .missingEof := by
  cases expectation with
  | name | assign => simp [refusal]
  | statement | operand | link =>
    simp only [refusal]
    split_ifs
    · simp
    · simp

namespace TokenRun

/-- Exactly a terminator is not appended. -/
theorem push?_eq_none_iff {run : TokenRun} {token : Token} :
    run.push? token = none ↔ token.isEof = true := by
  simp [push?]

/-- Appends tokens one after another; one that cannot be appended adds nothing. -/
def pushAll (run : TokenRun) (tokens : List Token) : TokenRun :=
  tokens.foldl (fun run token => (run.push? token).getD run) run

/-- What is appended are the tokens that are no terminators. -/
theorem toList_tokens_pushAll (run : TokenRun) (tokens : List Token) :
    (run.pushAll tokens).tokens.toList =
      run.tokens.toList ++ tokens.filter fun token => !token.isEof := by
  induction tokens generalizing run with
  | nil => simp [pushAll]
  | cons token rest ih =>
    have unfolded : run.pushAll (token :: rest) = ((run.push? token).getD run).pushAll rest := rfl
    rw [unfolded, ih]
    cases proper : token.isEof with
    | true => simp [push?, proper]
    | false => simp [push?, proper]

end TokenRun

namespace Parsing

variable {limits : ParseLimits} {tokens : List Token}

/-- The last token is a terminator, and the only one. -/
def Terminated (tokens : List Token) : Prop :=
  ∃ body eof, tokens = body ++ [eof] ∧ (∀ token ∈ body, token.isEof = false) ∧ eof.isEof = true

/-- Tokens are terminated when their first terminator is the last token. -/
theorem findIdx?_isEof_eq_iff :
    tokens.findIdx? Token.isEof = some (tokens.length - 1) ↔ Terminated tokens := by
  rw [List.findIdx?_eq_some_iff_getElem]
  constructor
  · rintro ⟨inside, ended, proper⟩
    have nonempty : tokens ≠ [] := List.ne_nil_of_length_pos (by omega)
    refine ⟨tokens.dropLast, tokens.getLast nonempty, ?_, ?_, ?_⟩
    · exact (List.dropLast_append_getLast nonempty).symm
    · intro token member
      obtain ⟨index, early, rfl⟩ := List.getElem_of_mem member
      rw [List.length_dropLast] at early
      rw [List.getElem_dropLast]
      simpa using proper index early
    · rw [List.getLast_eq_getElem]
      exact ended
  · rintro ⟨body, eof, rfl, proper, ends⟩
    have last : (body ++ [eof]).length - 1 = body.length := by simp
    refine ⟨by simp, by simpa [last] using ends, fun index early => ?_⟩
    have inside : index < body.length := by omega
    rw [List.getElem_append_left inside]
    simpa using proper _ (List.getElem_mem inside)

/-- Terminated tokens are not refused as a whole. -/
theorem ne_of_terminated (terminated : Terminated tokens) {error : ParseError}
    (failed : (ofTokensWithin limits tokens).failure = some error) :
    error ≠ .emptyTokenStream ∧ error ≠ .missingEof := by
  obtain ⟨body, eof, rfl, proper, ends⟩ := terminated
  have result : (ofTokensWithin limits (body ++ [eof])).result = .error error := by
    rw [Parsing.result, failed]
  rcases fails_of_ofTokensWithin proper ends result with fails | ⟨count, rfl⟩
  · cases fails with
    | @refused token reached => exact reached.refusal_ne token
    | ended passed incomplete => simp
    | limited member => simp
  · simp

/-- Tokens that are not terminated are refused as a whole. -/
theorem failure_of_not_terminated (nonempty : tokens ≠ []) (wrong : ¬ Terminated tokens) :
    (ofTokensWithin limits tokens).failure = some .missingEof := by
  have refused : Parser.splitEof tokens = .error .missingEof := by
    fun_cases Parser.splitEof tokens with
    | case1 => contradiction
    | case2 first rest body eof divided =>
      obtain ⟨whole, ends, proper⟩ := Parser.span_eq_iff.1 divided
      exact absurd ⟨body, eof, whole, proper, ends⟩ wrong
    | case3 first rest other => rfl
  rw [ofTokensWithin, refused]

/-- The error of no tokens is theirs alone. -/
theorem failure_eq_emptyTokenStream_iff :
    (ofTokensWithin limits tokens).failure = some .emptyTokenStream ↔ tokens = [] := by
  constructor
  · intro failed
    by_contra nonempty
    by_cases terminated : Terminated tokens
    · exact (ne_of_terminated terminated failed).1 rfl
    · rw [failure_of_not_terminated nonempty terminated] at failed
      contradiction
  · rintro rfl
    rfl

/-- The error of a missing terminator is that of tokens that are not terminated. -/
theorem failure_eq_missingEof_iff :
    (ofTokensWithin limits tokens).failure = some .missingEof ↔
      tokens ≠ [] ∧ ¬ Terminated tokens := by
  constructor
  · intro failed
    refine ⟨?_, fun terminated => (ne_of_terminated terminated failed).2 rfl⟩
    rintro rfl
    rw [failure_eq_emptyTokenStream_iff.2 rfl] at failed
    contradiction
  · rintro ⟨nonempty, wrong⟩
    exact failure_of_not_terminated nonempty wrong

/-- Over terminated tokens the walk ends with what parsing them gives, and without an error on
the terminator. -/
theorem exists_mem_eval (terminated : Terminated tokens) :
    ∃ finish ∈ StateTransition.eval (Parser.Walk.next? limits) (.start tokens),
      finish.done = (ofTokensWithin limits tokens).statements ∧
      finish.stage = .ended (ofTokensWithin limits tokens).failure ∧
      ((ofTokensWithin limits tokens).failure = none →
        finish.cursor.position = tokens.length - 1 ∧
          finish.cursor.current? = tokens.getLast?) := by
  obtain ⟨body, eof, rfl, proper, ends⟩ := terminated
  have divided : Parser.splitEof (body ++ [eof]) = .ok (body, eof.span) :=
    Parser.splitEof_eq_ok_iff.2 ⟨eof, rfl, ends, rfl, proper⟩
  have parsing : ofTokensWithin limits (body ++ [eof]) =
      Parser.readStatements limits eof.span #[] limits.statements body := by
    rw [ofTokensWithin, divided]
  have faces := Parser.Walk.faces_start proper ends
  obtain ⟨final, stands, run⟩ :=
    @Parser.Walk.reaches_readStatements limits _ _ #[] _ _ faces rfl
  rw [← parsing] at stands run
  refine ⟨_, StateTransition.mem_eval.2 ⟨run, rfl⟩, rfl, rfl, fun success => ?_⟩
  have faced := stands success
  have place := faced.position_add
  obtain ⟨same, -⟩ := Parser.Walk.faces_of_reaches faces run
  dsimp only at same
  rw [same] at place
  refine ⟨?_, ?_⟩
  · simpa [Parser.Walk.start, Cursor.ofArray] using place
  · rw [List.getLast?_concat]
    exact faced.current?

/-- At the head of each loop, what is left is what the readers make of the tokens from the cursor up
to the terminator. -/
theorem eq_of_remaining? (terminated : Terminated tokens) {walk : Parser.Walk}
    (run : Reaches (Parser.Walk.next? limits) (.start tokens) walk) {last : Token}
    (ends : tokens.getLast? = some last) {parsing : Parsing}
    (left : walk.remaining? limits last (tokens.drop walk.cursor.position).dropLast =
      some parsing) : parsing = ofTokensWithin limits tokens := by
  obtain ⟨finish, reached, done, stage, -⟩ := @exists_mem_eval limits _ terminated
  obtain ⟨body, eof, rfl, proper, isEof⟩ := terminated
  obtain rfl : eof = last := by simpa using ends
  obtain ⟨same, rest, faces⟩ :=
    Parser.Walk.faces_of_reaches (Parser.Walk.faces_start proper isEof) run
  have ahead : ((body ++ [eof]).drop walk.cursor.position).dropLast = rest := by
    have dropped := faces.ahead
    rw [same] at dropped
    rw [show (body ++ [eof]).drop walk.cursor.position = rest ++ [eof] from dropped,
      List.dropLast_concat]
  have room := (Parser.Walk.hasRoom_start (body ++ [eof])).of_reaches run
  rw [ahead] at left
  obtain ⟨cursor, others⟩ := Parser.Walk.reaches_of_remaining? faces room left
  -- The run from the start goes through the walk, so both end in the same place.
  rw [StateTransition.reaches_eval run] at reached
  obtain rfl := Part.mem_unique reached (StateTransition.mem_eval.2 ⟨others, rfl⟩)
  obtain ⟨statements, failure⟩ := parsing
  obtain rfl : statements = (ofTokensWithin limits (body ++ [eof])).statements := done
  obtain rfl := Parser.Stage.ended.inj stage
  rfl

/-- Parsing tokens ends within them, or refuses them before it begins. -/
structure EndsWithin (tokens : List Token) : Prop where
  /-- Exactly where there are no tokens, that is the error. -/
  empty : (ofTokens tokens).failure = some .emptyTokenStream ↔ tokens = []
  /-- Exactly where the first terminator is not the last token, that is the error. -/
  unterminated : (ofTokens tokens).failure = some .missingEof ↔
    tokens ≠ [] ∧ tokens.findIdx? Token.isEof ≠ some (tokens.length - 1)
  /-- Up to the terminator the walk over the tokens is steady. -/
  steady : Terminated tokens →
    Parser.Walk.Steady .standard (.start tokens) (tokens.length - 1)
  /-- At the head of a loop the walk is where the readers are: from the tokens between the cursor
  and the terminator they come to the same result. -/
  reads : Terminated tokens → ∀ walk,
    Reaches (Parser.Walk.next? .standard) (.start tokens) walk →
    ∀ eof ∈ tokens.getLast?, ∀ parsing ∈
      walk.remaining? .standard eof (tokens.drop walk.cursor.position).dropLast,
    parsing = ofTokens tokens
  /-- The walk ends with what parsing gives, and without an error on the terminator. -/
  ends : Terminated tokens →
    ∃ finish ∈ StateTransition.eval (Parser.Walk.next? .standard) (.start tokens),
      finish.done = (ofTokens tokens).statements ∧
      finish.stage = .ended (ofTokens tokens).failure ∧
      ((ofTokens tokens).failure = none →
        finish.cursor.position = tokens.length - 1 ∧
          finish.cursor.current? = tokens.getLast?)

/-- Every parse ends within its tokens, with the cursor growing along the way, or refuses them
before it begins; it never refuses a sequence that was appended token by token and finished. -/
theorem ends_within_tokens :
    (∀ tokens, EndsWithin tokens) ∧
      (∀ (run : TokenRun) (token : Token), run.push? token = none ↔ token.isEof = true) ∧
      ∀ (pushed : List Token) (place : Span),
        let sequence := (TokenRun.empty.pushAll pushed).finish place
        sequence.body = pushed.filter (fun token => !token.isEof) ∧
          (ofTokens sequence.toList).failure ≠ some .emptyTokenStream ∧
          (ofTokens sequence.toList).failure ≠ some .missingEof := by
  refine ⟨fun tokens => ?_, fun _ _ => TokenRun.push?_eq_none_iff, fun pushed place => ?_⟩
  · refine ⟨failure_eq_emptyTokenStream_iff, ?_, ?_, ?_, exists_mem_eval⟩
    · exact failure_eq_missingEof_iff.trans
        (and_congr_right fun _ => not_congr findIdx?_isEof_eq_iff.symm)
    · rintro ⟨body, eof, rfl, proper, ends⟩
      have last : (body ++ [eof]).length - 1 = body.length := by simp
      rw [last]
      exact Parser.Walk.steady_start proper ends
    · intro terminated walk run eof last parsing left
      exact eq_of_remaining? terminated run last left
  · intro sequence
    have terminated : Terminated sequence.toList :=
      ⟨_, _, rfl, fun _ member => TokenSequence.isEof_of_mem_body member, rfl⟩
    refine ⟨TokenRun.toList_tokens_pushAll .empty pushed, ?_, ?_⟩
    · exact fun failed => (ne_of_terminated terminated failed).1 rfl
    · exact fun failed => (ne_of_terminated terminated failed).2 rfl

/-- Over a definition and a chain the walk ends on the terminator, after seven other tokens, with
two statements complete. -/
theorem ends_within_tokens_definition :
    let place (column : Nat) : Span := ⟨⟨column - 1, 1, column⟩, ⟨column, 1, column + 1⟩⟩
    let tokens : List Token := [⟨.letWord, "let", place 1⟩, ⟨.identifier, "x", place 5⟩,
      ⟨.assign, "=", place 7⟩, ⟨.number, "4", place 9⟩, ⟨.identifier, "x", place 11⟩,
      ⟨.multiply, "*", place 13⟩, ⟨.null, "null", place 15⟩, .eof (place 19)]
    Terminated tokens ∧ (ofTokens tokens).failure = none ∧
      Parser.Walk.Steady .standard (.start tokens) 7 ∧
      ∃ finish ∈ StateTransition.eval (Parser.Walk.next? .standard) (.start tokens),
        finish.done.size = 2 ∧ finish.cursor.position = 7 := by
  intro place tokens
  have terminated : Terminated tokens :=
    ⟨tokens.dropLast, .eof (place 19), by decide, by decide, rfl⟩
  have success : (ofTokens tokens).failure = none := by decide
  have within := ends_within_tokens.1 tokens
  obtain ⟨finish, reached, done, -, stands⟩ := within.ends terminated
  refine ⟨terminated, success, within.steady terminated, finish, reached, ?_, (stands success).1⟩
  rw [done]
  decide

end Parsing

end LexisFront
