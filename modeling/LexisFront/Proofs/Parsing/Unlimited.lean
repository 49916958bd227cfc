import LexisFront.Proofs.Parsing.Acceptance

/-!
# Parsing without limits

The readers here know no limits. They read as the limited ones do and record, in order, the points
at which a limit could have stopped them: where tokens are left after so many complete statements,
and where one more operand of a chain was read. What limits leave of such a reading is the error of
the first point that is beyond one of them, and the reading itself when there is none.

To leave something of a reading in this way commutes with going on after a reading, so that each
limited reader is compared with its counterpart on its own.
-/

namespace LexisFront

namespace Parser

/-- A point of a parse at which a limit could stop it. -/
inductive Milestone where
  /-- Tokens are left after a number of complete statements. -/
  | begun (completed : Nat)
  /-- The operand after an operator was read; it has a number in its chain, counted from one. -/
  | joined (operator : Token) (number : Nat)

/-- The error of the points that are the first beyond a limit: tokens after as many statements as
are allowed, and the operand after as many as a chain may have. -/
def Milestone.error? (limits : ParseLimits) : Milestone → Option ParseError
  | begun completed =>
    if completed = limits.statements then
      some (.tooManyStatements (limits.statements + 1) limits.statements)
    else
      none
  | joined operator number =>
    if number = limits.chainLength + 1 then
      some (.chainTooLong (limits.chainLength + 1) limits.chainLength operator.span)
    else
      none

/-- What was read without limits, and the points that were passed, in order. -/
structure Traced (α : Type) where
  /-- The points that were passed. -/
  milestones : List Milestone
  /-- The value that was read, or why there is none. -/
  reading : Except ParseError α

namespace Traced

variable {α β : Type}

/-- A reading that passes no point. -/
def plain (reading : Except ParseError α) : Traced α := ⟨[], reading⟩

/-- Passes a point before a reading. -/
def pass (milestone : Milestone) (later : Traced α) : Traced α :=
  ⟨milestone :: later.milestones, later.reading⟩

/-- Changes the value of a reading. -/
def map (change : α → β) (traced : Traced α) : Traced β :=
  ⟨traced.milestones, traced.reading.map change⟩

/-- Goes on after a reading that has a value. -/
def bind (traced : Traced α) (next : α → Traced β) : Traced β :=
  match traced.reading with
  | .error error => ⟨traced.milestones, .error error⟩
  | .ok value => ⟨traced.milestones ++ (next value).milestones, (next value).reading⟩

/-- What limits leave of a reading: the error of the first point that is beyond one of them, or
else the reading. -/
def within (limits : ParseLimits) (traced : Traced α) : Except ParseError α :=
  match traced.milestones.findSome? (Milestone.error? limits) with
  | some error => .error error
  | none => traced.reading

variable {limits : ParseLimits}

/-- Limits leave a reading as it is when it passes no point. -/
@[simp]
theorem within_plain (reading : Except ParseError α) : (plain reading).within limits = reading :=
  rfl

/-- Limits stop a reading at a point that is beyond one of them. -/
theorem within_pass_of_some {milestone : Milestone} {error : ParseError}
    (beyond : milestone.error? limits = some error) (later : Traced α) :
    (pass milestone later).within limits = .error error := by
  simp only [within, pass, List.findSome?_cons, beyond]

/-- Limits let a reading pass any other point. -/
theorem within_pass_of_none {milestone : Milestone} (inside : milestone.error? limits = none)
    (later : Traced α) : (pass milestone later).within limits = later.within limits := by
  simp only [within, pass, List.findSome?_cons, inside]

/-- A change of the value does not matter to the limits. -/
theorem within_map (change : α → β) (traced : Traced α) :
    (traced.map change).within limits = (traced.within limits).map change := by
  unfold within map
  cases traced.milestones.findSome? (Milestone.error? limits) <;> rfl

/-- What limits leave of two readings is what they leave of the second after the first. -/
theorem within_bind (traced : Traced α) (next : α → Traced β) :
    (traced.bind next).within limits =
      (traced.within limits).bind fun value => (next value).within limits := by
  obtain ⟨milestones, reading⟩ := traced
  cases reading with
  | error error =>
    simp only [bind, within]
    cases milestones.findSome? (Milestone.error? limits) <;> rfl
  | ok value =>
    simp only [bind, within, List.findSome?_append]
    cases milestones.findSome? (Milestone.error? limits) <;> rfl

/-- Limits that are large enough leave a reading as it is. -/
theorem exists_bound (traced : Traced α) :
    ∃ bound, ∀ limits : ParseLimits, bound ≤ limits.chainLength → bound ≤ limits.statements →
      traced.within limits = traced.reading := by
  obtain ⟨milestones, reading⟩ := traced
  induction milestones with
  | nil => exact ⟨0, fun limits _ _ => rfl⟩
  | cons milestone milestones ih =>
    obtain ⟨bound, enough⟩ := ih
    cases milestone with
    | begun completed =>
      refine ⟨max bound (completed + 1), fun limits chains statements => ?_⟩
      have inside : (Milestone.begun completed).error? limits = none := if_neg (by omega)
      exact (within_pass_of_none inside _).trans (enough limits (by omega) (by omega))
    | joined operator number =>
      refine ⟨max bound number, fun limits chains statements => ?_⟩
      have inside : (Milestone.joined operator number).error? limits = none := if_neg (by omega)
      exact (within_pass_of_none inside _).trans (enough limits (by omega) (by omega))

end Traced

namespace Unlimited

/-- Reads operators, each with the operand after it, for as long as operators follow. `size` is
the number of operands so far, and `links` holds what was read, in reverse. -/
def readLinks (stop : Span) (size : Nat) (links : List (String × Operand)) :
    List Token → Traced (List (String × Operand) × List Token)
  | [] => .plain (.ok (links.reverse, []))
  | [operator] =>
    if operator.kind.isArithmetic then .plain (.error (.unexpectedEnd "operand" stop))
    else .plain (.ok (links.reverse, [operator]))
  | operator :: token :: rest =>
    if operator.kind.isArithmetic then
      match operandOf token with
      | .error error => .plain (.error error)
      | .ok operand =>
        .pass (.joined operator (size + 1))
          (readLinks stop (size + 1) ((operator.value, operand) :: links) rest)
    else
      .plain (.ok (links.reverse, operator :: token :: rest))

/-- Reads a chain. -/
def readChain (stop : Span) (tokens : List Token) : Traced (Chain × List Token) :=
  (Traced.plain (readOperand stop tokens)).bind fun (first, rest) =>
    (readLinks stop 1 [] rest).map fun (links, after) => (Chain.ofParts first links, after)

/-- Reads a declaration after its keyword. -/
def readDeclaration (stop : Span) (tokens : List Token) : Traced (Statement × List Token) :=
  (Traced.plain (readKind stop .identifier "identifier" tokens)).bind fun (name, rest) =>
    (Traced.plain (readKind stop .assign "'='" rest)).bind fun (_, rest) =>
      (readChain stop rest).map fun (chain, after) =>
        (.define name.value (.ofChain chain), after)

/-- Reads a statement. -/
def readStatement (stop : Span) (tokens : List Token) : Traced (Statement × List Token) :=
  match tokens with
  | [] => .plain (.error (.unexpectedEnd "operand" stop))
  | token :: rest =>
    if token.kind = .letWord then
      readDeclaration stop rest
    else
      (readChain stop (token :: rest)).map fun (chain, after) => (.ofChain chain, after)

variable {limits : ParseLimits} {stop : Span}

/-- Limits leave of links what the limited reader reads, as long as the chain is within its
limit. -/
theorem within_readLinks {size : Nat} (room : size ≤ limits.chainLength)
    (links : List (String × Operand)) (tokens : List Token) :
    (readLinks stop size links tokens).within limits =
      Parser.readLinks limits stop size links tokens := by
  fun_induction readLinks stop size links tokens with
  | case1 size links => rw [Parser.readLinks, Traced.within_plain]
  | case2 size links operator joins => rw [Parser.readLinks, if_pos joins, Traced.within_plain]
  | case3 size links operator other => rw [Parser.readLinks, if_neg other, Traced.within_plain]
  | case4 size links operator token rest joins error found =>
    rw [Parser.readLinks, if_pos joins, found, Traced.within_plain]
  | case5 size links operator token rest joins operand found ih =>
    rw [Parser.readLinks, if_pos joins, found]
    dsimp only
    by_cases full : size = limits.chainLength
    · have beyond : (Milestone.joined operator (size + 1)).error? limits =
          some (.chainTooLong (limits.chainLength + 1) limits.chainLength operator.span) :=
        if_pos (by omega)
      rw [Traced.within_pass_of_some beyond, if_pos (by omega), full]
    · have inside : (Milestone.joined operator (size + 1)).error? limits = none :=
        if_neg (by omega)
      rw [Traced.within_pass_of_none inside, if_neg (by omega)]
      exact ih (by omega)
  | case6 size links operator token rest other =>
    rw [Parser.readLinks, if_neg other, Traced.within_plain]

/-- Limits leave of a chain what the limited reader reads. -/
theorem within_readChain (proper : 1 ≤ limits.chainLength) (tokens : List Token) :
    (readChain stop tokens).within limits = Parser.readChain limits stop tokens := by
  rw [readChain, Traced.within_bind, Traced.within_plain, Parser.readChain]
  cases readOperand stop tokens with
  | error error => rfl
  | ok found =>
    obtain ⟨first, rest⟩ := found
    simp only [Except.bind, Traced.within_map, within_readLinks proper]

/-- Limits leave of a declaration what the limited reader reads. -/
theorem within_readDeclaration (proper : 1 ≤ limits.chainLength) (tokens : List Token) :
    (readDeclaration stop tokens).within limits = Parser.readDeclaration limits stop tokens := by
  rw [readDeclaration, Traced.within_bind, Traced.within_plain, Parser.readDeclaration]
  cases readKind stop .identifier "identifier" tokens with
  | error error => rfl
  | ok found =>
    obtain ⟨name, rest⟩ := found
    simp only [Except.bind, Traced.within_bind, Traced.within_plain]
    cases readKind stop .assign "'='" rest with
    | error error => rfl
    | ok found =>
      obtain ⟨assign, rest⟩ := found
      simp only [Traced.within_map, within_readChain proper]

/-- Limits leave of a statement what the limited reader reads. -/
theorem within_readStatement (proper : 1 ≤ limits.chainLength) (tokens : List Token) :
    (readStatement stop tokens).within limits = Parser.readStatement limits stop tokens := by
  cases tokens with
  | nil => rfl
  | cons token rest =>
    rw [readStatement, Parser.readStatement]
    by_cases keyword : token.kind = .letWord
    · rw [if_pos keyword, if_pos keyword, within_readDeclaration proper]
    · rw [if_neg keyword, if_neg keyword, Traced.within_map, within_readChain proper]

/-- A statement takes at least one token. -/
theorem length_lt_of_readStatement {tokens after : List Token} {statement : Statement}
    (read : (readStatement stop tokens).reading = .ok (statement, after)) :
    after.length < tokens.length := by
  obtain ⟨bound, enough⟩ := (readStatement stop tokens).exists_bound
  let wide : ParseLimits := ⟨bound + 1, bound + 1⟩
  have proper : 1 ≤ wide.chainLength := Nat.le_add_left 1 bound
  have found : Parser.readStatement wide stop tokens = .ok (statement, after) := by
    rw [← within_readStatement proper, enough wide (Nat.le_succ bound) (Nat.le_succ bound), read]
  obtain ⟨run, split, spelled, -⟩ := readStatement_eq_ok_iff.1 found
  have taken := List.length_pos_iff.2 spelled.ne_nil
  rw [split, List.length_append]
  omega

/-- Reads statements until the tokens end. -/
def readStatements (stop : Span) (done : Array Statement) : List Token → Traced Program
  | [] => .plain (.ok ⟨done.toList⟩)
  | token :: rest =>
    let first := readStatement stop (token :: rest)
    .pass (.begun done.size)
      (match _read : first.reading with
      | .error error => ⟨first.milestones, .error error⟩
      | .ok (statement, after) =>
        let others := readStatements stop (done.push statement) after
        ⟨first.milestones ++ others.milestones, others.reading⟩)
termination_by tokens => tokens.length
decreasing_by exact length_lt_of_readStatement _read

/-- Statements are read one after the other. -/
theorem readStatements_cons (done : Array Statement) (token : Token) (rest : List Token) :
    readStatements stop done (token :: rest) =
      .pass (.begun done.size) ((readStatement stop (token :: rest)).bind fun (statement, after) =>
        readStatements stop (done.push statement) after) := by
  rw [readStatements, Traced.bind]
  split
  · rename_i error read
    rw [read]
  · rename_i statement after read
    rw [read]

/-- Limits leave of the statements what the limited reader reads, as long as there are no more of
them than allowed. -/
theorem within_readStatements (proper : 1 ≤ limits.chainLength) {done : Array Statement}
    {budget : Nat} (room : done.size + budget = limits.statements) (tokens : List Token) :
    (readStatements stop done tokens).within limits =
      (Parser.readStatements limits stop done budget tokens).result := by
  fun_induction Parser.readStatements limits stop done budget tokens with
  | case1 done budget =>
    rw [readStatements]
    rfl
  | case2 done token rest =>
    have full : done.size = limits.statements := room
    have beyond : (Milestone.begun done.size).error? limits =
        some (.tooManyStatements (limits.statements + 1) limits.statements) := if_pos full
    rw [readStatements_cons, Traced.within_pass_of_some beyond, ← full]
    rfl
  | case3 done budget token rest error found =>
    have inside : (Milestone.begun done.size).error? limits = none := if_neg (by omega)
    rw [readStatements_cons, Traced.within_pass_of_none inside, Traced.within_bind,
      within_readStatement proper, found]
    rfl
  | case4 done budget token rest statement after found ih =>
    have inside : (Milestone.begun done.size).error? limits = none := if_neg (by omega)
    rw [readStatements_cons, Traced.within_pass_of_none inside, Traced.within_bind,
      within_readStatement proper, found]
    refine ih ?_
    rw [Array.size_push]
    omega

end Unlimited

end Parser

namespace Parsing

/-- Parses tokens without limits. -/
def unlimited (tokens : List Token) : Parser.Traced Program :=
  match Parser.splitEof tokens with
  | .error error => .plain (.error error)
  | .ok (body, stop) => Parser.Unlimited.readStatements stop #[] body

/-- Limits that allow an operand leave of a parse without limits what the limited parse gives. -/
theorem within_unlimited {limits : ParseLimits} (proper : 1 ≤ limits.chainLength)
    (tokens : List Token) :
    (unlimited tokens).within limits = (ofTokensWithin limits tokens).result := by
  rw [unlimited, ofTokensWithin]
  cases Parser.splitEof tokens with
  | error error => rfl
  | ok divided =>
    obtain ⟨body, stop⟩ := divided
    have room : (#[] : Array Statement).size + limits.statements = limits.statements :=
      Nat.zero_add _
    exact Parser.Unlimited.within_readStatements proper room body

/-- The limits bite at the first point of a parse without limits that is beyond one of them, and
change nothing else. That point is the operand after as many as a chain may have, and the error
names the operator before it; or it is a token after as many statements as are allowed. Otherwise a
parse gives what the parse without limits gives, which is also what every parse gives within limits
that are large enough. -/
theorem ofTokens_eq_within_unlimited (tokens : List Token) :
    (∃ bound, ∀ limits : ParseLimits, bound ≤ limits.chainLength → bound ≤ limits.statements →
      (ofTokensWithin limits tokens).result = (unlimited tokens).reading) ∧
    (ofTokens tokens).result =
      match (unlimited tokens).milestones.findSome? (Parser.Milestone.error? .standard) with
      | some error => .error error
      | none => (unlimited tokens).reading := by
  constructor
  · obtain ⟨bound, enough⟩ := (unlimited tokens).exists_bound
    refine ⟨bound + 1, fun limits chains statements => ?_⟩
    rw [← within_unlimited (by omega), enough limits (by omega) (by omega)]
  · have proper : 1 ≤ ParseLimits.standard.chainLength := by decide
    exact (within_unlimited proper tokens).symm

end Parsing

end LexisFront
