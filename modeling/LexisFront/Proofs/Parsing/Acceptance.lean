import LexisFront.Proofs.Parsing.Grammar
import Mathlib.Data.List.TakeDrop
import Mathlib.Data.List.TakeWhile

/-!
# Parsing accepts the grammar

Each reader has two laws. What it returns is spelled by the tokens that it took; and where tokens
spell something and what is left does not begin with an operator, it returns exactly that. The
second law holds before any rest, so the readers chain: the rest after a statement is the run of
the next one, which begins with no operator.

All laws are stated for any limits. The chains that a reader built and the number of statements
are within the limits, and nothing else is refused.
-/

namespace LexisFront

namespace Parser

variable {limits : ParseLimits} {stop : Span}

/-- A mapped result is a value exactly when the result is. -/
theorem map_eq_ok_iff {α β : Type} {change : α → β} {result : Except ParseError α} {value : β} :
    result.map change = .ok value ↔ ∃ before, result = .ok before ∧ change before = value := by
  cases result <;> simp [Except.map]

/-- A token is read as the operand that it spells. -/
theorem operandOf_eq_ok_iff {token : Token} {operand : Operand} :
    operandOf token = .ok operand ↔ operand.SpelledBy token := by
  rw [← Operand.ofToken?_eq_some_iff, operandOf]
  cases Operand.ofToken? token with
  | none =>
    dsimp only
    split <;> simp
  | some found => simp

/-- An operand is read from the token that spells it. -/
theorem readOperand_eq_ok_iff {tokens after : List Token} {operand : Operand} :
    readOperand stop tokens = .ok (operand, after) ↔
      ∃ token, tokens = token :: after ∧ operand.SpelledBy token := by
  cases tokens with
  | nil => simp [readOperand]
  | cons token rest =>
    rw [readOperand, map_eq_ok_iff]
    simp [operandOf_eq_ok_iff, and_comm]

/-- A token of a kind is read where it comes first. -/
theorem readKind_eq_ok_iff {kind : Kind} {expected : String} {tokens after : List Token}
    {token : Token} :
    readKind stop kind expected tokens = .ok (token, after) ↔
      tokens = token :: after ∧ token.kind = kind := by
  cases tokens with
  | nil => simp [readKind]
  | cons first rest =>
    rw [readKind]
    split
    · simp only [Except.ok.injEq, Prod.mk.injEq, List.cons.injEq, iff_self_and]
      rintro ⟨rfl, -⟩
      assumption
    · simp only [reduceCtorEq, List.cons.injEq, false_iff]
      rintro ⟨⟨rfl, -⟩, same⟩
      contradiction

/-- Where no operator comes first, no more links are read. -/
theorem readLinks_of_stops {size : Nat} {links : List (String × Operand)} {tokens : List Token}
    (stops : Stops tokens) :
    readLinks limits stop size links tokens = .ok (links.reverse, tokens) := by
  match tokens with
  | [] => rw [readLinks]
  | [token] =>
    have other : token.kind.isArithmetic = false := stops token rfl
    simp [readLinks, other]
  | token :: _ :: _ =>
    have other : token.kind.isArithmetic = false := stops token rfl
    simp [readLinks, other]

/-- The links that were read continue an operand to a chain, which is within the limit unless it
is the operand alone. -/
theorem exists_run_of_readLinks {size : Nat} {links all : List (String × Operand)}
    {tokens after : List Token} (read : readLinks limits stop size links tokens = .ok (all, after))
    {first : Operand} {token : Token} (spelled : first.SpelledBy token) :
    ∃ parts run, all = links.reverse ++ parts ∧ tokens = run ++ after ∧
      (Chain.ofParts first parts).SpelledBy (token :: run) ∧
      (parts = [] ∨ size + parts.length ≤ limits.chainLength) ∧ Stops after := by
  fun_induction readLinks limits stop size links tokens generalizing first token with
  | case1 size links =>
    obtain ⟨rfl, rfl⟩ := Prod.mk.inj (Except.ok.inj read)
    exact ⟨[], [], by simp, rfl, .last spelled, .inl rfl, by simp [Stops]⟩
  | case2 => contradiction
  | case3 size links operator other =>
    obtain ⟨rfl, rfl⟩ := Prod.mk.inj (Except.ok.inj read)
    exact ⟨[], [], by simp, rfl, .last spelled, .inl rfl, by simpa [Stops] using other⟩
  | case4 => contradiction
  | case5 => contradiction
  | case6 size links operator next rest joins operand found room ih =>
    obtain ⟨parts, run, rfl, rfl, follows, bound, stops⟩ := ih read (operandOf_eq_ok_iff.1 found)
    refine ⟨(operator.value, operand) :: parts, operator :: next :: run, by simp, rfl,
      .link spelled joins follows, .inr ?_, stops⟩
    rcases bound with rfl | bound
    · rw [List.length_singleton]
      omega
    · rw [List.length_cons]
      omega
  | case7 size links operator next rest other =>
    obtain ⟨rfl, rfl⟩ := Prod.mk.inj (Except.ok.inj read)
    exact ⟨[], [], by simp, rfl, .last spelled, .inl rfl, by simpa [Stops] using other⟩

/-- The links of a chain within the limit are read back from its tokens. -/
theorem readLinks_of_spelledBy {chain : Chain} {tokens : List Token}
    (spelled : chain.SpelledBy tokens) {size : Nat} (links : List (String × Operand))
    (bound : chain.rest = [] ∨ size + chain.rest.length ≤ limits.chainLength)
    {after : List Token} (stops : Stops after) :
    readLinks limits stop size links (tokens.tail ++ after) =
      .ok (links.reverse ++ chain.rest, after) := by
  induction spelled generalizing size links with
  | last spelled => simpa [Chain.rest] using readLinks_of_stops stops
  | @link operand token operator next run spelled joins follows ih =>
    obtain ⟨second, rest, rfl, found⟩ := follows.exists_first
    have room : size + (next.rest.length + 1) ≤ limits.chainLength := by
      simpa [Chain.rest] using bound
    have later := ih ((operator.value, next.first) :: links)
      (.inr (by omega : size + 1 + next.rest.length ≤ limits.chainLength))
    rw [List.tail_cons] at later
    rw [List.tail_cons, List.cons_append, List.cons_append, readLinks, if_pos joins,
      operandOf_eq_ok_iff.2 found]
    dsimp only
    rw [if_neg (by omega), later]
    simp [Chain.rest]

/-- A chain is read from tokens exactly when a beginning of them spells it and no operator follows;
its length is limited unless it is one operand. -/
theorem readChain_eq_ok_iff {tokens after : List Token} {chain : Chain} :
    readChain limits stop tokens = .ok (chain, after) ↔
      ∃ run, tokens = run ++ after ∧ chain.SpelledBy run ∧
        (∀ part ∈ (Statement.ofChain chain).chains, part.size ≤ limits.chainLength) ∧
        Stops after := by
  rw [Statement.forall_chains_ofChain, readChain]
  constructor
  · intro read
    split at read
    · contradiction
    · rename_i first rest found
      obtain ⟨token, rfl, spelled⟩ := readOperand_eq_ok_iff.1 found
      obtain ⟨⟨links, other⟩, reading, same⟩ := map_eq_ok_iff.1 read
      obtain ⟨rfl, rfl⟩ := Prod.mk.inj same
      obtain ⟨parts, run, rfl, rfl, follows, bound, stops⟩ :=
        exists_run_of_readLinks reading spelled
      refine ⟨token :: run, rfl, follows, ?_, stops⟩
      rw [Chain.rest_ofParts]
      exact bound
  · rintro ⟨run, rfl, spelled, bound, stops⟩
    have links := @readLinks_of_spelledBy limits stop chain run spelled 1 [] bound after stops
    obtain ⟨token, rest, rfl, first⟩ := spelled.exists_first
    rw [List.cons_append, readOperand_eq_ok_iff.2 ⟨token, rfl, first⟩]
    rw [List.tail_cons] at links
    simp [links, Except.map]

/-- A definition is read after its keyword exactly where a name, an assignment and a value
follow. -/
theorem readDeclaration_eq_ok_iff {tokens after : List Token} {statement : Statement} :
    readDeclaration limits stop tokens = .ok (statement, after) ↔
      ∃ name assign chain run, tokens = name :: assign :: (run ++ after) ∧
        name.kind = .identifier ∧ assign.kind = .assign ∧ chain.SpelledBy run ∧
        statement = .define name.value (.ofChain chain) ∧
        (∀ part ∈ statement.chains, part.size ≤ limits.chainLength) ∧ Stops after := by
  rw [readDeclaration]
  constructor
  · intro read
    split at read
    · contradiction
    rename_i name rest found
    obtain ⟨rfl, named⟩ := readKind_eq_ok_iff.1 found
    split at read
    · contradiction
    rename_i assign rest found
    obtain ⟨rfl, assigns⟩ := readKind_eq_ok_iff.1 found
    obtain ⟨⟨chain, other⟩, reading, same⟩ := map_eq_ok_iff.1 read
    obtain ⟨rfl, rfl⟩ := Prod.mk.inj same
    obtain ⟨run, rfl, spelled, bound, stops⟩ := readChain_eq_ok_iff.1 reading
    exact ⟨name, assign, chain, run, rfl, named, assigns, spelled, rfl, bound, stops⟩
  · rintro ⟨name, assign, chain, run, rfl, named, assigns, spelled, rfl, bound, stops⟩
    rw [readKind_eq_ok_iff.2 ⟨rfl, named⟩]
    dsimp only
    rw [readKind_eq_ok_iff.2 ⟨rfl, assigns⟩]
    dsimp only
    rw [readChain_eq_ok_iff.2 ⟨run, rfl, spelled, bound, stops⟩]
    rfl

/-- A statement is read exactly when a beginning of the tokens spells it and no operator
follows. -/
theorem readStatement_eq_ok_iff {tokens after : List Token} {statement : Statement} :
    readStatement limits stop tokens = .ok (statement, after) ↔
      ∃ run, tokens = run ++ after ∧ statement.SpelledBy run ∧
        (∀ part ∈ statement.chains, part.size ≤ limits.chainLength) ∧ Stops after := by
  constructor
  · intro read
    fun_cases readStatement limits stop tokens with
    | case1 => contradiction
    | case2 word rest opens =>
      rw [readStatement, if_pos opens] at read
      obtain ⟨name, assign, chain, run, rfl, named, assigns, spelled, rfl, bound, stops⟩ :=
        readDeclaration_eq_ok_iff.1 read
      exact ⟨word :: name :: assign :: run, rfl,
        .define opens named assigns (Statement.valueSpelledBy_ofChain spelled), bound, stops⟩
    | case3 word rest other =>
      rw [readStatement, if_neg other] at read
      obtain ⟨⟨chain, other⟩, reading, same⟩ := map_eq_ok_iff.1 read
      obtain ⟨rfl, rfl⟩ := Prod.mk.inj same
      obtain ⟨run, split, spelled, bound, stops⟩ := readChain_eq_ok_iff.1 reading
      exact ⟨run, split, .value (Statement.valueSpelledBy_ofChain spelled), bound, stops⟩
  · rintro ⟨run, rfl, spelled, bound, stops⟩
    cases spelled with
    | value valued =>
      obtain ⟨chain, rfl, spelled⟩ := valued.exists_ofChain
      have reading := (@readChain_eq_ok_iff limits stop _ after chain).2
        ⟨run, rfl, spelled, bound, stops⟩
      obtain ⟨token, rest, rfl, first⟩ := spelled.exists_first
      rw [List.cons_append] at reading ⊢
      rw [readStatement, if_neg first.kind_of_token.2, reading]
      rfl
    | @define word name assign value run opens named assigns valued =>
      obtain ⟨chain, rfl, spelled⟩ := valued.exists_ofChain
      rw [List.cons_append, readStatement, if_pos opens]
      exact readDeclaration_eq_ok_iff.2
        ⟨name, assign, chain, run, rfl, named, assigns, spelled, rfl, bound, stops⟩

/-- Reading to the end gives statements that the tokens spell, no more than allowed. -/
theorem exists_body_of_readStatements {done : Array Statement} {budget : Nat}
    {tokens : List Token} {program : Program}
    (read : (readStatements limits stop done budget tokens).result = .ok program) :
    ∃ body, program.body = done.toList ++ body ∧ body.length ≤ budget ∧
      (⟨body⟩ : Program).SpelledBy tokens ∧
      ∀ chain ∈ (⟨body⟩ : Program).chains, chain.size ≤ limits.chainLength := by
  fun_induction readStatements limits stop done budget tokens with
  | case1 done budget =>
    obtain rfl := Except.ok.inj read
    exact ⟨[], by simp, Nat.zero_le _, Program.spelledBy_nil, by simp [Program.chains]⟩
  | case2 => contradiction
  | case3 => contradiction
  | case4 done budget token tokens statement rest found ih =>
    obtain ⟨run, split, spelled, within, -⟩ := readStatement_eq_ok_iff.1 found
    obtain ⟨body, grown, bound, others, limited⟩ := ih read
    refine ⟨statement :: body, by simp [grown], Nat.succ_le_succ bound, ?_, ?_⟩
    · rw [split]
      exact .cons spelled others
    · intro chain member
      rcases List.mem_append.1 member with first | later
      · exact within chain first
      · exact limited chain later

/-- Statements that tokens spell are read from them to the end, when there are no more than
allowed. -/
theorem readStatements_of_spelledBy {body : List Statement} {tokens : List Token}
    (spelled : (⟨body⟩ : Program).SpelledBy tokens)
    (within : ∀ chain ∈ (⟨body⟩ : Program).chains, chain.size ≤ limits.chainLength)
    (done : Array Statement) {budget : Nat} (bound : body.length ≤ budget) :
    (readStatements limits stop done budget tokens).result = .ok ⟨done.toList ++ body⟩ := by
  induction body generalizing tokens done budget with
  | nil =>
    obtain ⟨runs, each, rfl⟩ := spelled
    cases each
    simp [readStatements, Parsing.result]
  | cons statement body ih =>
    obtain ⟨run, rest, rfl, first, others⟩ := spelled.exists_cons
    have found : readStatement limits stop (run ++ rest) = .ok (statement, rest) :=
      readStatement_eq_ok_iff.2 ⟨run, rfl, first,
        fun chain member => within chain (List.mem_append_left _ member), others.stops⟩
    obtain ⟨token, after, rfl⟩ := List.exists_cons_of_ne_nil first.ne_nil
    obtain ⟨room, rfl⟩ := Nat.exists_eq_add_of_le' (Nat.le_trans (Nat.succ_pos _) bound)
    have later := ih others (fun chain member => within chain (List.mem_append_right _ member))
      (done.push statement) (Nat.le_of_succ_le_succ bound)
    rw [List.cons_append] at found ⊢
    rw [readStatements, found]
    dsimp only
    rw [later]
    simp

/-- Tokens divide before their first terminator. -/
theorem span_eq_iff {tokens body : List Token} {eof : Token} :
    tokens.span (fun token => !token.isEof) = (body, [eof]) ↔
      tokens = body ++ [eof] ∧ eof.isEof = true ∧ ∀ token ∈ body, token.isEof = false := by
  rw [List.span_eq_takeWhile_dropWhile, Prod.mk.injEq]
  constructor
  · rintro ⟨taken, dropped⟩
    have whole := @List.takeWhile_append_dropWhile _ (fun token : Token => !token.isEof) tokens
    have ends := List.head?_dropWhile_not (fun token : Token => !token.isEof) tokens
    rw [taken, dropped] at whole
    rw [dropped] at ends
    refine ⟨whole.symm, by simpa using ends, fun token member => ?_⟩
    rw [← taken] at member
    simpa using List.mem_takeWhile_imp member
  · rintro ⟨rfl, ends, others⟩
    have kept : ∀ token ∈ body, (!token.isEof) = true := fun token member => by
      rw [others token member]
      rfl
    rw [List.takeWhile_append_of_pos kept, List.dropWhile_append_of_pos kept]
    simp [ends]

/-- Tokens are split before the only terminator, which is the last token. -/
theorem splitEof_eq_ok_iff {tokens body : List Token} {place : Span} :
    splitEof tokens = .ok (body, place) ↔
      ∃ eof, tokens = body ++ [eof] ∧ eof.isEof = true ∧ eof.span = place ∧
        ∀ token ∈ body, token.isEof = false := by
  constructor
  · intro split
    fun_cases splitEof tokens with
    | case1 => contradiction
    | case2 first rest before eof divided =>
      simp only [splitEof, divided] at split
      obtain ⟨rfl, rfl⟩ := Prod.mk.inj (Except.ok.inj split)
      obtain ⟨whole, ends, others⟩ := span_eq_iff.1 divided
      exact ⟨eof, whole, ends, rfl, others⟩
    | case3 first rest other =>
      rw [splitEof] at split
      split at split
      · exact absurd ‹_› (other _ _)
      · contradiction
  · rintro ⟨eof, whole, ends, rfl, others⟩
    have divided := span_eq_iff.2 ⟨whole, ends, others⟩
    cases tokens with
    | nil => simp at whole
    | cons first rest => simp only [splitEof, divided]

end Parser

namespace Parsing

/-- Within any limits, parsing gives a program exactly when the tokens before the one terminator
spell it and it is within the limits. -/
theorem result_ofTokensWithin_eq_ok_iff {limits : ParseLimits} {tokens : List Token}
    {program : Program} :
    (ofTokensWithin limits tokens).result = .ok program ↔
      ∃ body eof, tokens = body ++ [eof] ∧ eof.isEof = true ∧
        (∀ token ∈ body, token.isEof = false) ∧ program.size ≤ limits.statements ∧
        (∀ chain ∈ program.chains, chain.size ≤ limits.chainLength) ∧
        program.SpelledBy body := by
  rw [ofTokensWithin]
  constructor
  · intro read
    split at read
    · contradiction
    rename_i body stop divided
    obtain ⟨eof, rfl, ends, -, others⟩ := Parser.splitEof_eq_ok_iff.1 divided
    obtain ⟨statements, same, bound, spelled, within⟩ :=
      Parser.exists_body_of_readStatements read
    obtain rfl : program = ⟨statements⟩ := by
      obtain ⟨all⟩ := program
      simpa using same
    exact ⟨body, eof, rfl, ends, others, bound, within, spelled⟩
  · rintro ⟨body, eof, rfl, ends, others, bound, within, spelled⟩
    rw [Parser.splitEof_eq_ok_iff.2 ⟨eof, rfl, ends, rfl, others⟩]
    exact Parser.readStatements_of_spelledBy spelled within #[] bound

/-- Parsing accepts exactly the grammar and builds the program of the derivation: tokens give a
program exactly when they are tokens without a terminator, which spell the program run by run,
and one terminator, and the program is within the limits. -/
theorem ofTokens_eq_ok_iff_spelledBy (tokens : List Token) (program : Program) :
    (ofTokens tokens).result = .ok program ↔
      ∃ body eof, tokens = body ++ [eof] ∧ eof.isEof = true ∧
        (∀ token ∈ body, token.isEof = false) ∧ program.size ≤ Limits.maxStatements ∧
        (∀ chain ∈ program.chains, chain.size ≤ Limits.maxChainLength) ∧
        ∃ runs, List.Forall₂ Statement.SpelledBy program.body runs ∧ body = runs.flatten := by
  rw [ofTokens, result_ofTokensWithin_eq_ok_iff]
  rfl

end Parsing

end LexisFront
