import LexisFront.Proofs.Parsing.Grammar
import Mathlib.Data.List.Basic
import Mathlib.Logic.Function.Iterate

/-!
# Chains and their parts

A chain is told by its parts, a first operand and operators that each have the operand after them.
Its links pair the other way round: an operator stands with the operand before it. So a chain is
put together by keeping one operand pending until the next operator takes it, and then linking from
the last pair back to the first. A walk reads it in the other direction, one step to the next node
at a time.

Both directions are compared with the recursion over the parts here. A walk shows the parts in
order, nothing more is needed to build the same chain again, and no two lists of parts give one
chain.
-/

namespace LexisFront.Chain

/-- Gives the pending operand to an operator; the operand after the operator is pending then. -/
def pairPending (paired : List (Operand × String) × Operand) (part : String × Operand) :
    List (Operand × String) × Operand :=
  (paired.1 ++ [(paired.2, part.1)], part.2)

/-- Puts an operand and an operator before a chain. -/
def linkBefore (next : Chain) (pair : Operand × String) : Chain :=
  .link pair.1 pair.2 next

/-- The chain that is put together from the last pair back to the first. -/
def assemble (first : Operand) (rest : List (String × Operand)) : Chain :=
  let paired := rest.foldl pairPending ([], first)
  paired.1.reverse.foldl linkBefore (.last paired.2)

/-- The node that a walk has come to after some steps, if there is one. -/
def node? (chain : Chain) (steps : Nat) : Option Chain :=
  (fun reached : Option Chain => reached.bind next?)^[steps] (some chain)

/-- The parts that a walk shows: the first operand, and each operator with the operand that the
next node has. -/
def walkedParts (chain : Chain) : Operand × List (String × Operand) :=
  (chain.first, chain.operators.zip (chain.nodes.tail.map Prod.fst))

/-- What is left of the parts goes between the pairs that were made and the end of the chain. -/
theorem foldl_linkBefore_pairPending (rest : List (String × Operand)) :
    ∀ (pairs : List (Operand × String)) (pending : Operand),
      let paired := rest.foldl pairPending (pairs, pending)
      paired.1.reverse.foldl linkBefore (.last paired.2) =
        pairs.reverse.foldl linkBefore (ofParts pending rest) := by
  induction rest with
  | nil =>
    intro pairs pending
    rfl
  | cons part rest ih =>
    intro pairs pending
    obtain ⟨operator, operand⟩ := part
    rw [List.foldl_cons, ofParts]
    have later := ih (pairs ++ [(pending, operator)]) operand
    simpa [pairPending, linkBefore] using later

/-- Linking from the right gives the chain of the parts. -/
theorem assemble_eq_ofParts (first : Operand) (rest : List (String × Operand)) :
    assemble first rest = ofParts first rest :=
  foldl_linkBefore_pairPending rest [] first

/-- There are as many nodes as operands. -/
theorem length_nodes (chain : Chain) : chain.nodes.length = chain.size := by
  induction chain with
  | last operand => rfl
  | link operand operator next ih => rw [nodes, List.length_cons, ih, size]

/-- Past the last node a walk comes to nothing. -/
theorem node?_last_succ (operand : Operand) (steps : Nat) :
    (last operand).node? (steps + 1) = none := by
  rw [node?, Function.iterate_succ_apply, Option.bind_some, next?]
  exact Function.iterate_fixed rfl steps

/-- From the first node a walk goes on to the next one. -/
theorem node?_link_succ (operand : Operand) (operator : String) (next : Chain) (steps : Nat) :
    (link operand operator next).node? (steps + 1) = next.node? steps := by
  rw [node?, Function.iterate_succ_apply, Option.bind_some, next?]
  rfl

/-- The nodes of a chain are those that a walk comes to, in order. -/
theorem getElem?_nodes (chain : Chain) (steps : Nat) :
    chain.nodes[steps]? = (chain.node? steps).map fun node => (node.first, node.operator?) := by
  induction chain generalizing steps with
  | last operand =>
    cases steps with
    | zero => rfl
    | succ steps =>
      rw [node?_last_succ, nodes, List.getElem?_cons_succ]
      rfl
  | link operand operator next ih =>
    cases steps with
    | zero => rfl
    | succ steps => rw [node?_link_succ, nodes, List.getElem?_cons_succ, ih]

/-- After some steps along a chain of parts, a walk has the chain of the parts that are left. -/
theorem node?_ofParts (first : Operand) (rest : List (String × Operand)) (steps : Nat) :
    (ofParts first rest).node? steps = (first :: rest.map Prod.snd)[steps]?.map fun operand =>
      ofParts operand (rest.drop steps) := by
  induction rest generalizing first steps with
  | nil =>
    cases steps with
    | zero => rfl
    | succ steps => exact node?_last_succ first steps
  | cons part rest ih =>
    cases steps with
    | zero => rfl
    | succ steps =>
      obtain ⟨operator, operand⟩ := part
      rw [ofParts, node?_link_succ, ih, List.map_cons, List.getElem?_cons_succ, List.drop_succ_cons]

/-- A walk along a chain of parts shows the operands in order. -/
theorem map_fst_nodes_ofParts (first : Operand) (rest : List (String × Operand)) :
    (ofParts first rest).nodes.map Prod.fst = first :: rest.map Prod.snd := by
  induction rest generalizing first with
  | nil => rfl
  | cons part rest ih => rw [ofParts, nodes, List.map_cons, ih, List.map_cons]

/-- Each operator stands with the operand before it, and only the last operand has none. -/
theorem map_snd_nodes_ofParts (first : Operand) (rest : List (String × Operand)) :
    (ofParts first rest).nodes.map Prod.snd = rest.map (fun part => some part.1) ++ [none] := by
  induction rest generalizing first with
  | nil => rfl
  | cons part rest ih => rw [ofParts, nodes, List.map_cons, ih, List.map_cons, List.cons_append]

/-- The operators of a chain of parts are those of the parts. -/
theorem operators_ofParts (first : Operand) (rest : List (String × Operand)) :
    (ofParts first rest).operators = rest.map Prod.fst := by
  calc (ofParts first rest).operators
      = ((ofParts first rest).nodes.map Prod.snd).filterMap id := by
        rw [List.filterMap_map]
        rfl
    _ = (rest.map fun part => some part.1).filterMap id := by
        rw [map_snd_nodes_ofParts, List.filterMap_append]
        exact List.append_nil _
    _ = rest.map Prod.fst := by
        rw [List.filterMap_map]
        exact congrFun List.filterMap_eq_map rest

/-- The parts that a walk shows are the parts of the chain. -/
theorem walkedParts_eq (chain : Chain) : chain.walkedParts = (chain.first, chain.rest) := by
  have shown : chain.operators = chain.rest.map Prod.fst := by
    rw [← ofParts_first_rest chain, operators_ofParts, rest_ofParts]
  have following : chain.nodes.tail.map Prod.fst = chain.rest.map Prod.snd := by
    rw [← ofParts_first_rest chain, List.map_tail, map_fst_nodes_ofParts, rest_ofParts,
      List.tail_cons]
  rw [walkedParts, shown, following, ← List.unzip_fst, ← List.unzip_snd, List.zip_unzip]

/-- One operand is no chain. -/
theorem ofChain_ofParts_eq_operand_iff {first : Operand} {rest : List (String × Operand)} :
    Statement.ofChain (ofParts first rest) = .operand first ↔ rest = [] := by
  cases rest with
  | nil => simp [ofParts, Statement.ofChain]
  | cons part rest => simp [ofParts, Statement.ofChain]

/-- Two operands or more are kept as a chain. -/
theorem ofChain_ofParts_eq_chain_iff {first : Operand} {rest : List (String × Operand)} :
    Statement.ofChain (ofParts first rest) = .chain (ofParts first rest) ↔ rest ≠ [] := by
  cases rest with
  | nil => simp [ofParts, Statement.ofChain]
  | cons part rest => simp [ofParts, Statement.ofChain]

/-- Chains and lists of parts correspond one to one, and what is done to chains keeps to the
parts. Linking from the right gives the chain of the parts. A walk along it comes to a node for each
operand and then ends; the node has the operator after its operand, only the last has none, and
what follows is the chain of the parts that are left. The parts that a walk shows give the chain
back. A chain of one operand is the statement of that operand, and every other one is kept whole. -/
theorem ofParts_corresponds :
    Function.Bijective (fun parts : Operand × List (String × Operand) =>
        ofParts parts.1 parts.2) ∧
      (∀ chain : Chain, ofParts chain.walkedParts.1 chain.walkedParts.2 = chain) ∧
      ∀ (first : Operand) (rest : List (String × Operand)),
        let chain := ofParts first rest
        assemble first rest = chain ∧
          chain.nodes.map Prod.fst = first :: rest.map Prod.snd ∧
          chain.nodes.map Prod.snd = rest.map (fun part => some part.1) ++ [none] ∧
          (∀ steps, chain.nodes[steps]? =
            (chain.node? steps).map fun node => (node.first, node.operator?)) ∧
          (∀ steps, chain.node? steps = (first :: rest.map Prod.snd)[steps]?.map fun operand =>
            ofParts operand (rest.drop steps)) ∧
          chain.nodes.length = rest.length + 1 ∧ chain.size = rest.length + 1 ∧
          chain.operators = rest.map Prod.fst ∧
          (Statement.ofChain chain = .operand first ↔ rest = []) ∧
          (Statement.ofChain chain = .chain chain ↔ rest ≠ []) := by
  refine ⟨⟨?_, ?_⟩, ?_, ?_⟩
  · rintro ⟨first, rest⟩ ⟨first', rest'⟩ (same : ofParts first rest = ofParts first' rest')
    have firsts := congrArg Chain.first same
    have rests := congrArg Chain.rest same
    rw [first_ofParts, first_ofParts] at firsts
    rw [rest_ofParts, rest_ofParts] at rests
    rw [firsts, rests]
  · intro chain
    exact ⟨(chain.first, chain.rest), ofParts_first_rest chain⟩
  · intro chain
    rw [walkedParts_eq]
    exact ofParts_first_rest chain
  · intro first rest chain
    have size : chain.size = rest.length + 1 := by
      rw [size_eq_length_rest, rest_ofParts]
    exact ⟨assemble_eq_ofParts first rest, map_fst_nodes_ofParts first rest,
      map_snd_nodes_ofParts first rest, getElem?_nodes chain, node?_ofParts first rest,
      (length_nodes chain).trans size, size, operators_ofParts first rest,
      ofChain_ofParts_eq_operand_iff, ofChain_ofParts_eq_chain_iff⟩

end LexisFront.Chain
