import LexisFront.Program.Parser
import LexisFront.Token.Cursor
import Mathlib.Computability.StateTransition

/-!
# Parsing as a walk of a cursor

The readers pass on the tokens that are left, so a position is nowhere in them, and that they end
is plain from the list. Here the same parse is told as a machine over one cursor, with the loop
over statements and the loop over the links of a chain as stages that the machine comes back to.
The machine looks at a token where the parse does, also where there might be none.

Two facts carry everything said about it. A step either passes a token that is no terminator or
leaves the cursor and goes to a later stage, and each reader is followed by a run of the machine
to where the reader stops.
-/

namespace LexisFront

open StateTransition (Reaches Reaches₁)

namespace Cursor

/-- The token at the cursor, which must not be the end of the tokens. -/
def due (cursor : Cursor) (expected : String) : Except ParseError Token :=
  match cursor.current? with
  | some token =>
    if token.isEof then .error (.unexpectedEnd expected token.span) else .ok token
  | none =>
    .error (.unexpectedEnd expected ((cursor.tokens.back?.map (·.span)).getD Span.zero))

/-- Passes a token of a kind that has a name. -/
def expect (cursor : Cursor) (kind : Kind) (expected : String) :
    Except ParseError (Token × Cursor) :=
  match cursor.due expected with
  | .error error => .error error
  | .ok token =>
    if token.kind = kind then .ok (token, cursor.advance)
    else .error (.unexpectedToken expected token.value token.span)

/-- Passes a token that stands for an operand. -/
def takeOperand (cursor : Cursor) : Except ParseError (Operand × Cursor) :=
  match cursor.due "operand" with
  | .error error => .error error
  | .ok token => (Parser.operandOf token).map fun operand => (operand, cursor.advance)

/-- A later cursor has passed the token at the cursor, which is no terminator. -/
def Passes (cursor later : Cursor) : Prop :=
  ∃ token, cursor.current? = some token ∧ token.isEof = false ∧ later = cursor.advance

variable {cursor later : Cursor} {token : Token} {expected : String}

/-- A token that is due stands at the cursor and is no terminator. -/
theorem passes_of_due (found : cursor.due expected = .ok token) :
    cursor.Passes cursor.advance := by
  unfold due at found
  split at found
  · rename_i other present
    split at found
    · contradiction
    · rename_i proper
      exact ⟨other, present, Bool.eq_false_iff.2 proper, rfl⟩
  · contradiction

/-- An expected token is passed. -/
theorem passes_of_expect {kind : Kind} (found : cursor.expect kind expected = .ok (token, later)) :
    cursor.Passes later := by
  unfold expect at found
  split at found
  · contradiction
  · rename_i other present
    split at found
    · obtain ⟨rfl, rfl⟩ := Prod.mk.inj (Except.ok.inj found)
      exact passes_of_due present
    · contradiction

/-- The token of an operand is passed. -/
theorem passes_of_takeOperand {operand : Operand}
    (found : cursor.takeOperand = .ok (operand, later)) : cursor.Passes later := by
  unfold takeOperand at found
  split at found
  · contradiction
  · rename_i other present
    cases read : Parser.operandOf other with
    | error problem =>
      rw [read] at found
      contradiction
    | ok value =>
      rw [read] at found
      obtain ⟨rfl, rfl⟩ := Prod.mk.inj (Except.ok.inj found)
      exact passes_of_due present

/-- Passing a token moves the cursor by one place over the same tokens. -/
theorem Passes.eq (passes : cursor.Passes later) :
    later = ⟨cursor.tokens, cursor.position + 1⟩ := by
  obtain ⟨token, present, -, rfl⟩ := passes
  simp only [advance, present]

/-- The tokens from the cursor on are some that are no terminators, and then a terminator. -/
structure Faces (cursor : Cursor) (rest : List Token) (eof : Token) : Prop where
  /-- The tokens from the cursor on. -/
  ahead : cursor.tokens.toList.drop cursor.position = rest ++ [eof]
  /-- None but the last is a terminator. -/
  proper : ∀ token ∈ rest, token.isEof = false
  /-- The last is a terminator. -/
  ends : eof.isEof = true

variable {rest : List Token} {eof : Token}

/-- The token at the cursor is the first of those from it on. -/
theorem Faces.current? (faces : cursor.Faces rest eof) :
    cursor.current? = (rest ++ [eof]).head? := by
  rw [← faces.ahead, List.head?_drop, Array.getElem?_toList, Cursor.current?]

/-- Where the terminator stands. -/
theorem Faces.position_add (faces : cursor.Faces rest eof) :
    cursor.position + rest.length + 1 = cursor.tokens.size := by
  have length := congrArg List.length faces.ahead
  simp only [List.length_drop, List.length_append, List.length_singleton,
    Array.length_toList] at length
  omega

/-- After the first token the others are left. -/
theorem Faces.advance (faces : cursor.Faces (token :: rest) eof) :
    cursor.advance.Faces rest eof := by
  have present := faces.current?
  refine ⟨?_, fun other member => faces.proper other (List.mem_cons_of_mem token member),
    faces.ends⟩
  simp only [List.cons_append, List.head?_cons] at present
  simp only [Cursor.advance, present]
  rw [← List.drop_drop, faces.ahead]
  rfl

/-- A cursor that passes a token faces the tokens after it. -/
theorem Faces.of_passes (faces : cursor.Faces rest eof) (passes : cursor.Passes later) :
    ∃ after, later.Faces after eof := by
  obtain ⟨token, present, proper, rfl⟩ := passes
  rw [faces.current?] at present
  cases rest with
  | nil =>
    -- Only the terminator is left, and that is never passed.
    obtain rfl := Option.some.inj present
    rw [faces.ends] at proper
    contradiction
  | cons first others => exact ⟨others, faces.advance⟩

/-- Before the terminator nothing is due. -/
theorem Faces.due_nil (faces : cursor.Faces [] eof) (expected : String) :
    cursor.due expected = .error (.unexpectedEnd expected eof.span) := by
  have present : cursor.current? = some eof := faces.current?
  simp [Cursor.due, present, faces.ends]

/-- Before another token that token is due. -/
theorem Faces.due_cons (faces : cursor.Faces (token :: rest) eof) (expected : String) :
    cursor.due expected = .ok token := by
  have present : cursor.current? = some token := faces.current?
  simp [Cursor.due, present, faces.proper token List.mem_cons_self]

end Cursor

namespace Parser

variable {α : Type} {limits : ParseLimits} {eof : Token}

/-- A cursor does what a reader does: it fails alike, or it has the same value and faces the
tokens that the reader leaves. -/
inductive Follows (eof : Token) : Except ParseError (α × Cursor) → Reading α → Prop
  | error (error : ParseError) : Follows eof (.error error) (.error error)
  | ok (value : α) {cursor : Cursor} {rest : List Token} (faces : cursor.Faces rest eof) :
      Follows eof (.ok (value, cursor)) (.ok (value, rest))

/-- An expected token is passed as it is read. -/
theorem follows_expect {cursor : Cursor} {rest : List Token} (faces : cursor.Faces rest eof)
    (kind : Kind) (expected : String) :
    Follows eof (cursor.expect kind expected) (readKind eof.span kind expected rest) := by
  rw [Cursor.expect]
  cases rest with
  | nil =>
    rw [faces.due_nil]
    exact .error _
  | cons token others =>
    rw [faces.due_cons]
    dsimp only [readKind]
    split
    · exact .ok token faces.advance
    · exact .error _

/-- An operand is passed as it is read. -/
theorem follows_takeOperand {cursor : Cursor} {rest : List Token}
    (faces : cursor.Faces rest eof) :
    Follows eof cursor.takeOperand (readOperand eof.span rest) := by
  rw [Cursor.takeOperand]
  cases rest with
  | nil =>
    rw [faces.due_nil]
    exact .error _
  | cons token others =>
    rw [faces.due_cons]
    dsimp only [readOperand]
    cases operandOf token with
    | error problem => exact .error problem
    | ok operand => exact .ok operand faces.advance

/-- What the parse does next. -/
inductive Stage where
  /-- It begins a statement, or ends with the tokens. -/
  | statement
  /-- It passes the keyword of a definition. -/
  | keyword
  /-- It passes the name of a definition. -/
  | name
  /-- It passes the sign between a name and its value. -/
  | assign (name : String)
  /-- It passes the first operand of a chain, which may be the value of a name. -/
  | first (name? : Option String)
  /-- It goes on with a chain when an operator follows; `links` holds what was read, in
  reverse. -/
  | link (name? : Option String) (first : Operand) (links : List (String × Operand))
  /-- It passes the operand after an operator. -/
  | operand (name? : Option String) (first : Operand) (links : List (String × Operand))
      (operator : Token)
  /-- It has ended, perhaps with an error. -/
  | ended (failure : Option ParseError)

namespace Stage

/-- The order of the stages between which no token is passed. -/
def rank : Stage → Nat
  | link .. => 0
  | statement => 1
  | keyword | name | assign _ | first _ | operand .. => 2
  | ended _ => 3

end Stage

/-- The statement of a chain, which may be the value of a name. -/
def statementOf : Option String → Chain → Statement
  | none, chain => .ofChain chain
  | some name, chain => .define name (.ofChain chain)

/-- A parse under way: its cursor, the complete statements and what it does next. -/
structure Walk where
  /-- The reading position. -/
  cursor : Cursor
  /-- The statements that are complete. -/
  done : Array Statement
  /-- What comes next. -/
  stage : Stage

namespace Walk

/-- The parse before the first token. -/
def start (tokens : List Token) : Walk := ⟨.ofArray tokens.toArray, #[], .statement⟩

/-- Goes to the stage after what was passed, or ends with the error of passing it. -/
def take (walk : Walk) (passed : Except ParseError (α × Cursor)) (later : α → Stage) : Walk :=
  match passed with
  | .error error => { walk with stage := .ended (some error) }
  | .ok (value, cursor) => { walk with cursor, stage := later value }

/-- One step of a parse that has not ended. -/
def next? (limits : ParseLimits) (walk : Walk) : Option Walk :=
  match walk.stage with
  | .statement =>
    if walk.cursor.isAtEof then
      some { walk with stage := .ended none }
    else if limits.statements ≤ walk.done.size then
      some { walk with
        stage := .ended (some (.tooManyStatements (walk.done.size + 1) limits.statements)) }
    else if walk.cursor.check .letWord then
      some { walk with stage := .keyword }
    else
      some { walk with stage := .first none }
  | .keyword => some (walk.take (walk.cursor.expect .letWord "'let'") fun _ => .name)
  | .name =>
    some (walk.take (walk.cursor.expect .identifier "identifier") fun token =>
      .assign token.value)
  | .assign name =>
    some (walk.take (walk.cursor.expect .assign "'='") fun _ => .first (some name))
  | .first name? =>
    some (walk.take walk.cursor.takeOperand fun operand => .link name? operand [])
  | .link name? first links =>
    match walk.cursor.current?.filter (·.kind.isArithmetic) with
    | some operator =>
      some { walk with
        cursor := walk.cursor.advance
        stage := .operand name? first links operator }
    | none =>
      some { walk with
        done := walk.done.push (statementOf name? (.ofParts first links.reverse))
        stage := .statement }
  | .operand name? first links operator =>
    some (walk.take walk.cursor.takeOperand fun operand =>
      -- The operand is passed before its chain is found to be too long.
      if limits.chainLength < links.length + 2 then
        .ended (some (.chainTooLong (links.length + 2) limits.chainLength operator.span))
      else
        .link name? first ((operator.value, operand) :: links))
  | .ended _ => none

/-- What one step does: it passes the token at the cursor, which is no terminator, or it leaves
the cursor and goes to a later stage. -/
def Moves (walk later : Walk) : Prop :=
  walk.cursor.Passes later.cursor ∨
    later.cursor = walk.cursor ∧ walk.stage.rank < later.stage.rank

variable {walk later : Walk}

/-- Passing something moves the cursor, and failing to pass it ends the walk. -/
theorem moves_take {passed : Except ParseError (α × Cursor)} {onward : α → Stage}
    (unfinished : walk.stage.rank < 3)
    (passes : ∀ value cursor, passed = .ok (value, cursor) → walk.cursor.Passes cursor) :
    walk.Moves (walk.take passed onward) := by
  cases passed with
  | error problem => exact .inr ⟨rfl, unfinished⟩
  | ok found => exact .inl (passes found.1 found.2 rfl)

/-- Every step passes a token that is no terminator, or goes to a later stage. -/
theorem moves_of_next? (stepped : walk.next? limits = some later) : walk.Moves later := by
  obtain ⟨cursor, done, stage⟩ := walk
  cases stage with
  | statement =>
    -- Whatever comes next, the cursor stays and the stage is a later one.
    simp only [next?] at stepped
    split_ifs at stepped
    all_goals
      obtain rfl := Option.some.inj stepped
      exact .inr ⟨rfl, by simp [Stage.rank]⟩
  | keyword | name | assign =>
    obtain rfl := Option.some.inj stepped
    exact moves_take (by simp [Stage.rank]) fun _ _ found => Cursor.passes_of_expect found
  | first | operand =>
    obtain rfl := Option.some.inj stepped
    exact moves_take (by simp [Stage.rank]) fun _ _ found => Cursor.passes_of_takeOperand found
  | link name? first links =>
    simp only [next?] at stepped
    split at stepped
    · rename_i operator found
      obtain rfl := Option.some.inj stepped
      obtain ⟨present, joins⟩ := Option.filter_eq_some_iff.1 found
      refine .inl ⟨operator, present, ?_, rfl⟩
      rw [Token.isEof, beq_eq_false_iff_ne]
      intro ended
      rw [ended] at joins
      contradiction
    · obtain rfl := Option.some.inj stepped
      exact .inr ⟨rfl, by simp [Stage.rank]⟩
  | ended failure => contradiction

/-- A walk is before another when its cursor is, or when the cursors stand at one place and the
stage of the other is a later one. -/
def Before (walk later : Walk) : Prop :=
  walk.cursor.position < later.cursor.position ∨
    walk.cursor.position = later.cursor.position ∧ walk.stage.rank < later.stage.rank

/-- A step goes on from what was before. -/
theorem Moves.before (moves : walk.Moves later) : walk.Before later := by
  rcases moves with passes | ⟨same, higher⟩
  · have further := congrArg Cursor.position passes.eq
    exact .inl (by simp only [further, Nat.lt_add_one])
  · exact .inr ⟨by rw [same], higher⟩

/-- What is before a walk is before what that walk is before. -/
theorem Before.trans {middle : Walk} (left : walk.Before middle) (right : middle.Before later) :
    walk.Before later := by
  unfold Before at *
  omega

/-- Along a run of at least one step a walk goes on. -/
theorem before_of_reaches₁ (run : Reaches₁ (next? limits) walk later) : walk.Before later := by
  induction run with
  | single stepped => exact (moves_of_next? stepped).before
  | tail _ stepped ih =>
    exact ih.trans (moves_of_next? stepped).before

/-- A run never goes back. -/
theorem position_le_of_reaches (run : Reaches (next? limits) walk later) :
    walk.cursor.position ≤ later.cursor.position := by
  rcases Relation.reflTransGen_iff_eq_or_transGen.1 run with rfl | steps
  · exact Nat.le_refl _
  · have before := before_of_reaches₁ steps
    unfold Before at before
    omega

/-- A run from tokens that end in their only terminator stays before it. -/
theorem faces_of_reaches {rest : List Token} (faces : walk.cursor.Faces rest eof)
    (run : Reaches (next? limits) walk later) :
    later.cursor.tokens = walk.cursor.tokens ∧ ∃ after, later.cursor.Faces after eof := by
  induction run with
  | refl => exact ⟨rfl, rest, faces⟩
  | tail _ stepped ih =>
    obtain ⟨same, after, faced⟩ := ih
    rcases moves_of_next? stepped with passes | ⟨still, -⟩
    · have tokens := congrArg Cursor.tokens passes.eq
      exact ⟨tokens.trans same, faced.of_passes passes⟩
    · rw [still]
      exact ⟨same, after, faced⟩

/-- From a walk the parse comes to where reading a statement does: to the next statement, with
this one complete and the cursor before the tokens that are left, or to the error. -/
def ComesTo (limits : ParseLimits) (walk : Walk) (eof : Token) : Reading Statement → Prop
  | .ok (statement, rest) => ∃ cursor : Cursor, cursor.Faces rest eof ∧
      Reaches (next? limits) walk ⟨cursor, walk.done.push statement, .statement⟩
  | .error error => ∃ cursor : Cursor,
      Reaches (next? limits) walk ⟨cursor, walk.done, .ended (some error)⟩

/-- A step that completes no statement may be made first. -/
theorem ComesTo.step {reading : Reading Statement} (stepped : walk.next? limits = some later)
    (comes : later.ComesTo limits eof reading) (same : later.done = walk.done) :
    walk.ComesTo limits eof reading := by
  cases reading with
  | error problem =>
    obtain ⟨cursor, run⟩ := comes
    exact ⟨cursor, same ▸ run.head stepped⟩
  | ok found =>
    obtain ⟨cursor, faces, run⟩ := comes
    exact ⟨cursor, faces, same ▸ run.head stepped⟩

/-- Passing what a reader reads goes before what is read after it. -/
theorem ComesTo.take {passed : Except ParseError (α × Cursor)} {onward : α → Stage}
    {reading : Reading α} {others : α × List Token → Reading Statement}
    (follows : Follows eof passed reading)
    (stepped : walk.next? limits = some (walk.take passed onward))
    (comes : ∀ (found : α × List Token) (cursor : Cursor), cursor.Faces found.2 eof →
      ComesTo limits ⟨cursor, walk.done, onward found.1⟩ eof (others found)) :
    walk.ComesTo limits eof (reading.bind others) := by
  cases follows with
  | error problem => exact ⟨walk.cursor, .single stepped⟩
  | ok value faces => exact .step stepped (comes (value, _) _ faces) rfl

variable {cursor : Cursor} {done : Array Statement} {name? : Option String} {first : Operand}
  {links : List (String × Operand)} {rest : List Token}

/-- Where no operator follows, a chain is complete. -/
theorem comesTo_of_stops (faces : cursor.Faces rest eof)
    (stops : ∀ token ∈ rest.head?, token.kind.isArithmetic = false) :
    ComesTo limits ⟨cursor, done, .link name? first links⟩ eof
      (.ok (statementOf name? (.ofParts first links.reverse), rest)) := by
  have absent : cursor.current?.filter (·.kind.isArithmetic) = none := by
    rw [faces.current?]
    cases rest with
    | nil =>
      have last := faces.ends
      rw [Token.isEof, beq_iff_eq] at last
      simp [last, Kind.isArithmetic]
    | cons token others => simp [stops token rfl]
  refine ⟨cursor, faces, .single ?_⟩
  simp [next?, absent]

/-- Where an operator follows, it is passed and an operand is due. -/
theorem next?_of_operator {operator : Token} (faces : cursor.Faces (operator :: rest) eof)
    (joins : operator.kind.isArithmetic = true) :
    next? limits ⟨cursor, done, .link name? first links⟩ =
      some ⟨cursor.advance, done, .operand name? first links operator⟩ := by
  have present : cursor.current? = some operator := faces.current?
  simp [next?, present, Option.filter, joins]

/-- Links are passed as they are read. -/
theorem comesTo_readLinks {size : Nat} (counted : size = links.length + 1)
    (faces : cursor.Faces rest eof) :
    ComesTo limits ⟨cursor, done, .link name? first links⟩ eof
      ((readLinks limits eof.span size links rest).map fun (all, after) =>
        (statementOf name? (.ofParts first all), after)) := by
  fun_induction readLinks limits eof.span size links rest generalizing cursor with
  | case1 size links => exact comesTo_of_stops faces (by simp)
  | case2 size links operator joins =>
    refine .step (next?_of_operator faces joins) ⟨cursor.advance, .single ?_⟩ rfl
    simp [next?, take, Cursor.takeOperand, faces.advance.due_nil]
  | case3 size links operator stops => exact comesTo_of_stops faces (by simpa using stops)
  | case4 size links operator token rest joins problem found =>
    refine .step (next?_of_operator faces joins) ⟨cursor.advance, .single ?_⟩ rfl
    simp [next?, take, Cursor.takeOperand, faces.advance.due_cons, found, Except.map]
  | case5 size links operator token rest joins operand found many =>
    refine .step (next?_of_operator faces joins) ⟨cursor.advance.advance, .single ?_⟩ rfl
    rw [counted] at many ⊢
    simp [next?, take, Cursor.takeOperand, faces.advance.due_cons, found, Except.map, many]
  | case6 size links operator token rest joins operand found room ih =>
    have later := ih (by rw [counted]; rfl) faces.advance.advance
    refine .step (next?_of_operator faces joins) (.step ?_ later rfl) rfl
    rw [counted] at room
    simp [next?, take, Cursor.takeOperand, faces.advance.due_cons, found, Except.map, room]
  | case7 size links operator token rest stops =>
    exact comesTo_of_stops faces (by simpa using stops)

/-- Reading a chain is reading its first operand and then its links. -/
theorem map_readChain (stop : Span) (tokens : List Token) (change : Chain → Statement) :
    ((readChain limits stop tokens).map fun (chain, after) => (change chain, after)) =
      (readOperand stop tokens).bind fun first =>
        (readLinks limits stop 1 [] first.2).map fun (links, after) =>
          (change (.ofParts first.1 links), after) := by
  rw [readChain]
  cases readOperand stop tokens with
  | error problem => rfl
  | ok first =>
    dsimp only [Except.bind]
    cases readLinks limits stop 1 [] first.2 with
    | error problem => rfl
    | ok links => rfl

/-- A chain is passed as it is read. -/
theorem comesTo_readChain (faces : cursor.Faces rest eof) :
    ComesTo limits ⟨cursor, done, .first name?⟩ eof
      ((readChain limits eof.span rest).map fun (chain, after) =>
        (statementOf name? chain, after)) := by
  rw [map_readChain]
  exact .take (follows_takeOperand faces) rfl fun _ _ faced => comesTo_readLinks rfl faced

/-- Reading a definition is reading its name, its sign and its value. -/
theorem readDeclaration_eq_bind (stop : Span) (tokens : List Token) :
    readDeclaration limits stop tokens =
      (readKind stop .identifier "identifier" tokens).bind fun name =>
        (readKind stop .assign "'='" name.2).bind fun assign =>
          (readChain limits stop assign.2).map fun (chain, after) =>
            (statementOf (some name.1.value) chain, after) := by
  rw [readDeclaration]
  cases readKind stop .identifier "identifier" tokens with
  | error problem => rfl
  | ok name =>
    dsimp only [Except.bind]
    cases readKind stop .assign "'='" name.2 with
    | error problem => rfl
    | ok assign => rfl

/-- A definition is passed, after its keyword, as it is read. -/
theorem comesTo_readDeclaration (faces : cursor.Faces rest eof) :
    ComesTo limits ⟨cursor, done, .name⟩ eof (readDeclaration limits eof.span rest) := by
  rw [readDeclaration_eq_bind]
  refine .take (follows_expect faces .identifier "identifier") rfl fun name _ named => ?_
  refine .take (follows_expect named .assign "'='") rfl fun assign _ assigned => ?_
  exact comesTo_readChain assigned

/-- A statement is passed as it is read. -/
theorem comesTo_readStatement {token : Token} (faces : cursor.Faces (token :: rest) eof)
    (room : done.size < limits.statements) :
    ComesTo limits ⟨cursor, done, .statement⟩ eof
      (readStatement limits eof.span (token :: rest)) := by
  have present : cursor.current? = some token := faces.current?
  have proper : token.isEof = false := faces.proper token List.mem_cons_self
  rw [readStatement]
  split
  · rename_i keyword
    have passed : next? limits ⟨cursor, done, .keyword⟩ =
        some ⟨cursor.advance, done, .name⟩ := by
      simp [next?, take, Cursor.expect, faces.due_cons, keyword]
    refine .step ?_ (.step passed (comesTo_readDeclaration faces.advance) rfl) rfl
    simp [next?, Cursor.isAtEof, Cursor.check, Cursor.kind?, present, proper, keyword, room]
  · rename_i other
    have comes : ComesTo limits ⟨cursor, done, .first none⟩ eof _ := comesTo_readChain faces
    refine .step ?_ comes rfl
    simp [next?, Cursor.isAtEof, Cursor.check, Cursor.kind?, present, proper, other, room]

/-- The parse comes to what reading statements to the end comes to, and without an error its
cursor then stands on the terminator. -/
theorem reaches_readStatements {budget : Nat} (faces : cursor.Faces rest eof)
    (room : budget + done.size = limits.statements) :
    let parsing := readStatements limits eof.span done budget rest
    ∃ final : Cursor, (parsing.failure = none → final.Faces [] eof) ∧
      Reaches (next? limits) ⟨cursor, done, .statement⟩
        ⟨final, parsing.statements, .ended parsing.failure⟩ := by
  fun_induction readStatements limits eof.span done budget rest generalizing cursor with
  | case1 done budget =>
    have present : cursor.current? = some eof := faces.current?
    refine ⟨cursor, fun _ => faces, .single ?_⟩
    simp [next?, Cursor.isAtEof, present, faces.ends]
  | case2 done token rest =>
    have present : cursor.current? = some token := faces.current?
    have proper : token.isEof = false := faces.proper token List.mem_cons_self
    refine ⟨cursor, by simp, .single ?_⟩
    rw [Nat.zero_add] at room
    simp [next?, Cursor.isAtEof, present, proper, room]
  | case3 done budget token rest problem found =>
    have comes : ComesTo limits ⟨cursor, done, .statement⟩ eof _ :=
      comesTo_readStatement faces (by omega)
    rw [found] at comes
    obtain ⟨final, run⟩ := comes
    exact ⟨final, by simp, run⟩
  | case4 done budget token rest statement after found ih =>
    have comes : ComesTo limits ⟨cursor, done, .statement⟩ eof _ :=
      comesTo_readStatement faces (by omega)
    rw [found] at comes
    obtain ⟨middle, faced, run⟩ := comes
    obtain ⟨final, stands, others⟩ :=
      ih faced (by rw [Array.size_push]; omega)
    exact ⟨final, stands, run.trans others⟩

end Walk

end Parser

end LexisFront
