import LexisFront.Proofs.Program.Layout

/-!
# Reading a dump

A dump escapes nothing, puts the operand after an operator before the one in front of it, never
shows the last node of a chain by itself, and has no spaces at width zero. It can still be read in
one way only. No line of it begins with a space, so the texts of the lines are known whatever the
width is. The texts are then read from the front: the first ones tell which statement begins, and a
statement is told apart from whatever follows it.

Depths play no part in this, so the lemmas are about texts and hold for lines of any two depths.
-/

namespace LexisFront

/-- A program that its dump tells: no text holds a newline, and no chain is one operand. -/
structure Program.IsLegible (program : Program) : Prop where
  /-- No text holds a newline. -/
  unbroken : program.IsUnbroken
  /-- Every chain has at least two nodes, also in the value of a definition. -/
  several : ∀ chain ∈ program.chains, 2 ≤ chain.nodes.length

/-- The chains of a well-formed program have at least two operands. -/
theorem Program.WellFormed.two_le_size_of_mem_chains {program : Program}
    (proper : program.WellFormed) {chain : Chain} (member : chain ∈ program.chains) :
    2 ≤ chain.size := by
  have several {value : Statement} (proper : value.ValueWellFormed)
      (member : chain ∈ value.chains) : 2 ≤ chain.size := by
    cases proper with
    | operand _ => contradiction
    | chain _ several _ =>
      obtain rfl := List.mem_singleton.1 member
      exact several
  obtain ⟨statement, inside, member⟩ := List.mem_flatMap.1 member
  cases proper.statements statement inside with
  | value proper => exact several proper member
  | define _ proper => exact several proper member

/-- The name of a node type tells the type. -/
theorem NodeType.name_injective : Function.Injective NodeType.name := by
  intro left right same
  have found := congrArg ofName? same
  rwa [ofName?_name, ofName?_name, Option.some.injEq] at found

namespace Dump

/-- The text of a plain line is what stands behind its spaces. -/
theorem dropWhile_indented {line : Line} (plain : IsPlain line.text) (width : Nat) :
    (line.indented width).dropWhile (· == ' ') = line.text.toList := by
  rw [Line.indented, List.dropWhile_append_of_pos]
  · cases shape : line.text.toList with
    | nil => rfl
    | cons c rest =>
      have other : c ≠ ' ' := by
        intro space
        exact plain.unindented (by rw [shape, List.head?_cons, space])
      simp [other]
  · intro c member
    simp [List.eq_of_mem_replicate member]

/-- Plain lines that are put down alike have the same texts. -/
theorem map_text_eq_of_layOut_eq {width : Nat} {lines lines' : List Line}
    (plain : ∀ line ∈ lines, IsPlain line.text) (plain' : ∀ line ∈ lines', IsPlain line.text)
    (same : layOut width lines = layOut width lines') :
    lines.map Line.text = lines'.map Line.text := by
  have uncovered {lines : List Line} (plain : ∀ line ∈ lines, IsPlain line.text) :
      (lines.map (Line.indented width)).map (fun characters =>
        String.ofList (characters.dropWhile (· == ' '))) = lines.map Line.text := by
    rw [List.map_map]
    apply List.map_congr_left
    intro line member
    rw [Function.comp_apply, dropWhile_indented (plain line member), String.ofList_toList]
  rw [← uncovered plain, ← uncovered plain', map_indented_eq_of_layOut_eq _ _ same]
  · exact fun line member => (plain line member).unbroken
  · exact fun line member => (plain' line member).unbroken

/-- A text between a label and an end is told by the whole. -/
theorem field_inj {label close text text' : String} :
    label ++ text ++ close = label ++ text' ++ close ↔ text = text' := by
  rw [String.append_left_inj, String.append_right_inj]

variable {depth depth' : Nat} {rest rest' : List String}

/-- An operand is read off the texts of its lines. -/
theorem operand_eq_of_texts {operand operand' : Operand}
    (same : (operandLines depth operand).map Line.text ++ rest =
      (operandLines depth' operand').map Line.text ++ rest') :
    operand = operand' ∧ rest = rest' := by
  obtain ⟨nodeType, value⟩ := operand
  obtain ⟨nodeType', value'⟩ := operand'
  obtain ⟨types, others⟩ := List.cons.inj same
  obtain ⟨values, rests⟩ := List.cons.inj others
  obtain rfl := NodeType.name_injective (field_inj.1 types)
  obtain rfl : value = value' := field_inj.1 values
  exact ⟨rfl, rests⟩

/-- A link is read off the texts of its block. -/
theorem link_eq_of_texts {current next current' next' : Operand} {operator operator' : String}
    (same : (linkLines depth current operator next).map Line.text ++ rest =
      (linkLines depth' current' operator' next').map Line.text ++ rest') :
    current = current' ∧ operator = operator' ∧ next = next' ∧ rest = rest' := by
  simp only [linkLines, List.map_append, List.map_cons, List.map_nil, List.append_assoc,
    List.cons_append, List.nil_append, List.cons.injEq, true_and] at same
  obtain ⟨rfl, between⟩ := operand_eq_of_texts same
  simp only [List.cons.injEq, true_and] at between
  obtain ⟨operators, shown⟩ := between
  obtain ⟨rfl, closed⟩ := operand_eq_of_texts shown
  simp only [List.cons.injEq, true_and] at closed
  exact ⟨rfl, field_inj.1 operators, rfl, closed⟩

/-- A chain with a known first operand is read off the texts of its blocks and the text that
closes them. -/
theorem chain_eq_of_texts {chain chain' : Chain} (first : chain.first = chain'.first)
    (same : (blockLines depth chain).map Line.text ++ "\x7d," :: rest =
      (blockLines depth' chain').map Line.text ++ "\x7d," :: rest') :
    chain = chain' ∧ rest = rest' := by
  induction chain generalizing chain' with
  | last operand =>
    cases chain' with
    | last operand' =>
      obtain rfl : operand = operand' := first
      exact ⟨rfl, List.tail_eq_of_cons_eq same⟩
    | link operand' operator' next' => simp [blockLines, linkLines] at same
  | link operand operator next ih =>
    cases chain' with
    | last operand' => simp [blockLines, linkLines] at same
    | link operand' operator' next' =>
      rw [blockLines, blockLines, List.map_append, List.map_append, List.append_assoc,
        List.append_assoc] at same
      obtain ⟨rfl, rfl, nextFirst, later⟩ := link_eq_of_texts same
      obtain ⟨rfl, rests⟩ := ih nextFirst later
      exact ⟨rfl, rests⟩

/-- A chain of several operands is read off the texts of its blocks alone: its first operand is
shown as well. -/
theorem several_eq_of_texts {chain chain' : Chain} (several : 2 ≤ chain.nodes.length)
    (several' : 2 ≤ chain'.nodes.length)
    (same : (blockLines depth chain).map Line.text ++ "\x7d," :: rest =
      (blockLines depth' chain').map Line.text ++ "\x7d," :: rest') :
    chain = chain' ∧ rest = rest' := by
  refine chain_eq_of_texts ?_ same
  cases chain with
  | last operand => simp [Chain.nodes] at several
  | link operand operator next =>
    cases chain' with
    | last operand' => simp [Chain.nodes] at several'
    | link operand' operator' next' =>
      rw [blockLines, blockLines, List.map_append, List.map_append, List.append_assoc,
        List.append_assoc] at same
      exact (link_eq_of_texts same).1

/-- A statement is read off the texts of its lines, whatever follows them. -/
theorem statement_eq_of_texts {statement statement' : Statement}
    (several : ∀ chain ∈ statement.chains, 2 ≤ chain.nodes.length)
    (several' : ∀ chain ∈ statement'.chains, 2 ≤ chain.nodes.length)
    (same : (statementLines depth statement).map Line.text ++ rest =
      (statementLines depth' statement').map Line.text ++ rest') :
    statement = statement' ∧ rest = rest' := by
  induction statement generalizing statement' depth depth' rest rest' with
  | operand operand =>
    cases statement' with
    | operand operand' =>
      simp only [statementLines, List.map_append, List.map_cons, List.map_nil, List.append_assoc,
        List.cons_append, List.nil_append, List.cons.injEq, true_and] at same
      obtain ⟨rfl, later⟩ := operand_eq_of_texts same
      simp only [List.cons.injEq, true_and] at later
      exact ⟨rfl, later⟩
    | _ => simp [statementLines] at same
  | chain chain =>
    cases statement' with
    | chain chain' =>
      simp only [statementLines, List.map_append, List.map_cons, List.map_nil, List.append_assoc,
        List.cons_append, List.nil_append, List.cons.injEq, true_and] at same
      obtain ⟨rfl, rests⟩ := several_eq_of_texts (several chain List.mem_cons_self)
        (several' chain' List.mem_cons_self) same
      exact ⟨rfl, rests⟩
    | _ => simp [statementLines] at same
  | declare name =>
    cases statement' with
    | declare name' =>
      simp only [statementLines, List.map_cons, List.map_nil, List.cons_append, List.nil_append,
        List.cons.injEq, true_and] at same
      obtain rfl : name = name' := field_inj.1 same.1
      exact ⟨rfl, same.2⟩
    | _ => simp [statementLines] at same
  | define name value ih =>
    cases statement' with
    | define name' value' =>
      simp only [statementLines, List.map_append, List.map_cons, List.map_nil, List.append_assoc,
        List.cons_append, List.nil_append, List.cons.injEq, true_and] at same
      obtain rfl : name = name' := field_inj.1 same.1
      have inner : ∀ chain ∈ value'.chains, 2 ≤ chain.nodes.length := several'
      obtain ⟨rfl, later⟩ := ih several inner same.2
      exact ⟨rfl, List.tail_eq_of_cons_eq later⟩
    | _ => simp [statementLines] at same

/-- No statement begins with the text that closes the body of a program. -/
theorem bracket_ne_texts (statement : Statement) :
    "]" :: rest ≠ (statementLines depth statement).map Line.text ++ rest' := by
  intro same
  cases statement <;> simp [statementLines] at same

/-- Statements are read off the texts of their lines up to the text that closes the body. -/
theorem body_eq_of_texts {body body' : List Statement}
    (several : ∀ statement ∈ body, ∀ chain ∈ statement.chains, 2 ≤ chain.nodes.length)
    (several' : ∀ statement ∈ body', ∀ chain ∈ statement.chains, 2 ≤ chain.nodes.length)
    (same : (body.flatMap (statementLines depth)).map Line.text ++ "]" :: rest =
      (body'.flatMap (statementLines depth')).map Line.text ++ "]" :: rest') :
    body = body' := by
  induction body generalizing body' with
  | nil =>
    cases body' with
    | nil => rfl
    | cons statement' body' =>
      rw [List.flatMap_cons, List.map_append, List.append_assoc] at same
      exact absurd same (bracket_ne_texts statement')
  | cons statement body ih =>
    cases body' with
    | nil =>
      rw [List.flatMap_cons, List.map_append, List.append_assoc] at same
      exact absurd same.symm (bracket_ne_texts statement)
    | cons statement' body' =>
      obtain ⟨first, later⟩ := List.forall_mem_cons.1 several
      obtain ⟨first', later'⟩ := List.forall_mem_cons.1 several'
      simp only [List.flatMap_cons, List.map_append, List.append_assoc] at same
      obtain ⟨rfl, others⟩ := statement_eq_of_texts first first' same
      rw [ih later later' others]

/-- A program is read off the texts of its lines. -/
theorem program_eq_of_texts {program program' : Program}
    (several : ∀ chain ∈ program.chains, 2 ≤ chain.nodes.length)
    (several' : ∀ chain ∈ program'.chains, 2 ≤ chain.nodes.length)
    (same : (lines program).map Line.text = (lines program').map Line.text) :
    program = program' := by
  obtain ⟨body⟩ := program
  obtain ⟨body'⟩ := program'
  simp only [lines, List.map_append, List.map_cons, List.map_nil, List.cons_append,
    List.nil_append, List.cons.injEq, true_and] at same
  have bodies : body = body' := by
    refine body_eq_of_texts (fun statement inside chain member => ?_)
      (fun statement inside chain member => ?_) same
    · exact several chain (List.mem_flatMap_of_mem inside member)
    · exact several' chain (List.mem_flatMap_of_mem inside member)
  rw [bodies]

/-- The dumps of two programs at one width, whatever it is, are the same only when the programs are,
if no text holds a newline and no chain is one operand. What runs give is of that sort. -/
theorem program_eq_of_render_eq :
    (∀ (width : Nat) (program program' : Program), program.IsLegible → program'.IsLegible →
      render width program = render width program' → program = program') ∧
      ∀ program, FrontRun.Produces program → program.IsLegible := by
  constructor
  · intro width program program' legible legible' same
    rw [render_eq_layOut, render_eq_layOut] at same
    exact program_eq_of_texts legible.several legible'.several
      (map_text_eq_of_layOut_eq (isPlain_of_mem_lines legible.unbroken)
        (isPlain_of_mem_lines legible'.unbroken) same)
  · intro program produced
    have proper := produced.wellFormed
    refine ⟨proper.isUnbroken, fun chain member => ?_⟩
    rw [Chain.length_nodes]
    exact proper.two_le_size_of_mem_chains member

/-- The program of this run is known from its dump, although the dump has no spaces: a definition by
a chain and an operand. -/
theorem program_eq_of_render_eq_unindented :
    let program : Program := ⟨[
      .define "n" (.chain (.link (.number "12") "+" (.last (.identifier "x")))), .operand .null]⟩
    program.IsLegible ∧
      ∃ run result,
        FrontRun.ofSource? ⟨false, true, true, true⟩ "let n = 12 +é x\nnull" = some run ∧
        run.result = .ok result ∧ result.program.IsLegible ∧
        render 0 result.program = render 0 program ∧ result.program = program := by
  intro program
  have legible : program.IsLegible := ⟨by decide, by decide⟩
  have outcome : (FrontRun.ofSource? ⟨false, true, true, true⟩ "let n = 12 +é x\nnull").map
      (·.result.toOption.map (render 0 ·.program)) = some (some (render 0 program)) := rfl
  obtain ⟨run, result, ran, succeeded, same⟩ := FrontRun.exists_result_of_view outcome
  have produced := program_eq_of_render_eq.2 _ (.ofSource ran succeeded)
  exact ⟨legible, run, result, ran, succeeded, produced, same,
    program_eq_of_render_eq.1 0 _ program produced legible same⟩

/-- A chain of one operand is not shown. -/
example : render 2 ⟨[.chain (.last (.number "1"))]⟩ = render 2 ⟨[.chain (.last .null)]⟩ := rfl

end Dump

end LexisFront
