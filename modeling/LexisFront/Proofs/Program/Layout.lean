import LexisFront.Program.Dump
import LexisFront.Proofs.Program.ChainParts
import LexisFront.Proofs.Program.Produced
import Mathlib.Algebra.Ring.Nat

/-!
# The layout of dumps

A dump is a list of lines, each with a depth, put down at some number of spaces per depth. When no
text of the program holds a newline, the list is determined by what is put down: without spaces the
texts can be told apart, and one space per depth gives the depths.

The lines are described statement by statement. A statement takes a fixed number of lines but for
its chain, which takes one block per link, and but for the value of a definition, which stands two
levels deeper. What a run gives has one level of definitions at most, and so a depth of at most
seven.
-/

namespace LexisFront

/-- No text of a program holds a newline. -/
def Program.IsUnbroken (program : Program) : Prop :=
  ∀ word ∈ program.words, '\n' ∉ word.toList

/-- Whether a text of a program holds a newline can be decided. -/
instance (program : Program) : Decidable program.IsUnbroken :=
  inferInstanceAs (Decidable (∀ word ∈ program.words, '\n' ∉ word.toList))

/-- A well-formed program has no newline in its texts, which are words. -/
theorem Program.WellFormed.isUnbroken {program : Program} (proper : program.WellFormed) :
    program.IsUnbroken := by
  intro word member newline
  have blank := (proper.isWord_of_mem_words member).isBlankChar_eq_false newline
  contradiction

namespace Text

/-- Pushing a character some times appends it so often. -/
theorem toList_pushn (text : String) (c : Char) (count : Nat) :
    (text.pushn c count).toList = text.toList ++ List.replicate count c := by
  induction count with
  | zero => exact (List.append_nil _).symm
  | succ count ih =>
    have last : text.pushn c (count + 1) = (text.pushn c count).push c := rfl
    rw [last, String.toList_push, ih, List.append_assoc, List.replicate_succ']

/-- A text up to its first newline and what follows are determined by the two together. -/
theorem append_newline_inj {line line' rest rest' : List Char} (free : '\n' ∉ line)
    (free' : '\n' ∉ line') (same : line ++ '\n' :: rest = line' ++ '\n' :: rest') :
    line = line' ∧ rest = rest' := by
  have firsts := congrArg (List.idxOf '\n') same
  rw [List.idxOf_append_of_notMem free, List.idxOf_append_of_notMem free',
    List.idxOf_cons_self, List.idxOf_cons_self] at firsts
  obtain ⟨lines, rests⟩ := List.append_inj same firsts
  exact ⟨lines, List.tail_eq_of_cons_eq rests⟩

end Text

namespace Dump

/-- A line behind its spaces. -/
def Line.indented (width : Nat) (line : Line) : List Char :=
  List.replicate (line.depth * width) ' ' ++ line.text.toList

/-- A line as it is put down: its spaces, its text and a newline. -/
def Line.written (width : Nat) (line : Line) : String :=
  String.ofList (line.indented width ++ ['\n'])

/-- Lines put down one after the other. -/
def layOut (width : Nat) (lines : List Line) : String :=
  String.join (lines.map (Line.written width))

/-- Writing a line puts it down behind what is written already, at the width within the limit. -/
theorem writeLine_eq (width : Nat) (out : String) (line : Line) :
    writeLine width out line = out ++ line.written (min width Limits.maxIndentWidth) := by
  rw [← String.toList_inj, writeLine, String.toList_push, String.toList_append,
    Text.toList_pushn, String.toList_append, Line.written, String.toList_ofList, Line.indented,
    List.append_assoc, List.append_assoc, List.append_assoc]

/-- Writing lines puts them down one after the other. -/
theorem foldl_writeLine (width : Nat) (lines : List Line) (out : String) :
    lines.foldl (writeLine width) out = out ++ layOut (min width Limits.maxIndentWidth) lines := by
  induction lines generalizing out with
  | nil => exact String.append_empty.symm
  | cons line lines ih =>
    rw [List.foldl_cons, ih, writeLine_eq, String.append_assoc, layOut, layOut, List.map_cons,
      String.join_cons]

/-- A dump is its lines, put down at the width within the limit. -/
theorem render_eq_layOut (width : Nat) (program : Program) :
    render width program = layOut (min width Limits.maxIndentWidth) (lines program) :=
  (foldl_writeLine width (lines program) "").trans String.empty_append

/-- Lines without newlines in their texts are told apart, each with its spaces. -/
theorem map_indented_eq_of_layOut_eq {width : Nat} {lines lines' : List Line}
    (free : ∀ line ∈ lines, '\n' ∉ line.text.toList)
    (free' : ∀ line ∈ lines', '\n' ∉ line.text.toList)
    (same : layOut width lines = layOut width lines') :
    lines.map (Line.indented width) = lines'.map (Line.indented width) := by
  have unbroken {line : Line} (free : '\n' ∉ line.text.toList) : '\n' ∉ line.indented width := by
    rw [Line.indented, List.mem_append, List.mem_replicate, not_or]
    exact ⟨fun space => absurd space.2 (by decide), free⟩
  induction lines generalizing lines' with
  | nil =>
    cases lines' with
    | nil => rfl
    | cons line' lines' =>
      have nothing := congrArg String.toList same
      simp [layOut, Line.written] at nothing
  | cons line lines ih =>
    cases lines' with
    | nil =>
      have nothing := congrArg String.toList same
      simp [layOut, Line.written] at nothing
    | cons line' lines' =>
      obtain ⟨first, later⟩ := List.forall_mem_cons.1 free
      obtain ⟨first', later'⟩ := List.forall_mem_cons.1 free'
      have characters := congrArg String.toList same
      simp only [layOut, List.map_cons, String.join_cons, String.toList_append, Line.written,
        String.toList_ofList, List.append_assoc, List.singleton_append] at characters
      obtain ⟨heads, tails⟩ :=
        Text.append_newline_inj (unbroken first) (unbroken first') characters
      rw [List.map_cons, List.map_cons, heads, ih later later' (String.toList_inj.1 tails)]

/-- A text that stands on a line of its own and begins after the spaces before it. -/
structure IsPlain (text : String) : Prop where
  /-- The text holds no newline. -/
  unbroken : '\n' ∉ text.toList
  /-- The text does not begin with a space. -/
  unindented : text.toList.head? ≠ some ' '

/-- Whether a text is plain can be decided. -/
instance (text : String) : Decidable (IsPlain text) :=
  decidable_of_iff ('\n' ∉ text.toList ∧ text.toList.head? ≠ some ' ')
    ⟨fun both => ⟨both.1, both.2⟩, fun plain => ⟨plain.unbroken, plain.unindented⟩⟩

/-- A plain text with a text without newlines between its label and its end is plain. -/
theorem IsPlain.field {label word close : String} (opens : IsPlain label)
    (labelled : label.toList ≠ []) (free : '\n' ∉ word.toList) (closes : '\n' ∉ close.toList) :
    IsPlain (label ++ word ++ close) := by
  constructor
  · rw [String.toList_append, String.toList_append, List.mem_append, List.mem_append, not_or,
      not_or]
    exact ⟨⟨opens.unbroken, free⟩, closes⟩
  · rw [String.toList_append, String.toList_append, List.append_assoc,
      List.head?_append_of_ne_nil _ labelled]
    exact opens.unindented

/-- The name of a node type has no newline. -/
theorem newline_notMem_name (nodeType : NodeType) : '\n' ∉ nodeType.name.toList := by
  cases nodeType <;> decide

variable {depth : Nat}

/-- The lines of an operand are plain. -/
theorem isPlain_of_mem_operandLines {operand : Operand} (free : '\n' ∉ operand.value.toList) :
    ∀ line ∈ operandLines depth operand, IsPlain line.text := by
  have typeLine : IsPlain ("type: \"" ++ operand.nodeType.name ++ "\",") :=
    .field (by decide) (by decide) (newline_notMem_name _) (by decide)
  have valueLine : IsPlain ("value: \"" ++ operand.value ++ "\"") :=
    .field (by decide) (by decide) free (by decide)
  exact List.forall_mem_cons.2 ⟨typeLine, List.forall_mem_singleton.2 valueLine⟩

/-- The lines of the block of an operator are plain. -/
theorem isPlain_of_mem_linkLines {current next : Operand} {operator : String}
    (free : '\n' ∉ current.value.toList) (freeOperator : '\n' ∉ operator.toList)
    (freeNext : '\n' ∉ next.value.toList) :
    ∀ line ∈ linkLines depth current operator next, IsPlain line.text := by
  have operatorLine : IsPlain ("op: \"" ++ operator ++ "\",") :=
    .field (by decide) (by decide) freeOperator (by decide)
  simp only [linkLines, List.forall_mem_append, List.forall_mem_cons, List.not_mem_nil,
    false_implies, implies_true, and_true]
  exact ⟨⟨⟨⟨⟨by decide, by decide⟩, isPlain_of_mem_operandLines freeNext⟩, by decide,
    operatorLine, by decide⟩, isPlain_of_mem_operandLines free⟩, by decide, by decide⟩

/-- The lines of the blocks of a chain are plain. -/
theorem isPlain_of_mem_blockLines {chain : Chain}
    (free : ∀ word ∈ chain.words, '\n' ∉ word.toList) :
    ∀ line ∈ blockLines depth chain, IsPlain line.text := by
  induction chain with
  | last operand =>
    intro line member
    contradiction
  | link operand operator next ih =>
    obtain ⟨freeCurrent, freeOperator, later⟩ :=
      (List.forall_mem_cons.1 free).imp_right List.forall_mem_cons.1
    have freeNext : '\n' ∉ next.first.value.toList := by
      apply later
      cases next <;> exact List.mem_cons_self
    exact List.forall_mem_append.2
      ⟨isPlain_of_mem_linkLines freeCurrent freeOperator freeNext, ih later⟩

/-- The line of a declared name is plain. -/
theorem isPlain_identifier {name : String} (free : '\n' ∉ name.toList) :
    IsPlain ("identifier: \"" ++ name ++ "\",") :=
  .field (by decide) (by decide) free (by decide)

/-- The lines of a statement are plain. -/
theorem isPlain_of_mem_statementLines {statement : Statement}
    (free : ∀ word ∈ statement.words, '\n' ∉ word.toList) :
    ∀ line ∈ statementLines depth statement, IsPlain line.text := by
  induction statement generalizing depth with
  | operand operand =>
    have freeValue : '\n' ∉ operand.value.toList := free _ List.mem_cons_self
    simp only [statementLines, List.forall_mem_append, List.forall_mem_cons, List.not_mem_nil,
      false_implies, implies_true, and_true]
    exact ⟨⟨⟨by decide, by decide, by decide⟩, isPlain_of_mem_operandLines freeValue⟩, by decide,
      by decide⟩
  | chain chain =>
    simp only [statementLines, List.forall_mem_append, List.forall_mem_cons, List.not_mem_nil,
      false_implies, implies_true, and_true]
    exact ⟨⟨by decide, isPlain_of_mem_blockLines free⟩, by decide⟩
  | declare name =>
    have freeName : '\n' ∉ name.toList := free name (by simp [Statement.words])
    simp only [statementLines, List.forall_mem_cons, List.not_mem_nil, false_implies,
      implies_true, and_true]
    exact ⟨by decide, by decide, isPlain_identifier freeName, by decide, by decide⟩
  | define name value ih =>
    have freeName : '\n' ∉ name.toList := free name (by simp [Statement.words])
    have freeValue : ∀ word ∈ value.words, '\n' ∉ word.toList := by
      intro word member
      exact free word (by simp [Statement.words, member])
    simp only [statementLines, List.forall_mem_append, List.forall_mem_cons, List.not_mem_nil,
      false_implies, implies_true, and_true]
    exact ⟨⟨⟨by decide, by decide, isPlain_identifier freeName, by decide⟩, ih freeValue⟩,
      by decide⟩

/-- The lines of a program without newlines in its texts are plain. -/
theorem isPlain_of_mem_lines {program : Program} (unbroken : program.IsUnbroken) :
    ∀ line ∈ lines program, IsPlain line.text := by
  have body : ∀ line ∈ program.body.flatMap (statementLines 2), IsPlain line.text := by
    intro line member
    obtain ⟨statement, inside, member⟩ := List.mem_flatMap.1 member
    refine isPlain_of_mem_statementLines (fun word within => ?_) line member
    exact unbroken word (List.mem_flatMap_of_mem inside within)
  simp only [lines, List.forall_mem_append, List.forall_mem_cons, List.not_mem_nil,
    false_implies, implies_true, and_true]
  exact ⟨⟨⟨by decide, by decide, by decide⟩, body⟩, by decide, by decide⟩

/-- How a program is laid out: lines, without newlines in their texts, that are put down at every
width within the limit. -/
structure Lays (program : Program) (lines : List Line) : Prop where
  /-- Each text is one line of the dump. -/
  unbroken : ∀ line ∈ lines, '\n' ∉ line.text.toList
  /-- A dump is the lines, with the spaces of its width; a width above the limit is the limit. -/
  rendered : ∀ width, render width program = layOut (min width Limits.maxIndentWidth) lines

/-- A program without newlines in its texts is laid out as its lines. -/
theorem lays_lines {program : Program} (unbroken : program.IsUnbroken) :
    Lays program (lines program) where
  unbroken line member := (isPlain_of_mem_lines unbroken line member).unbroken
  rendered width := render_eq_layOut width program

/-- A program is laid out in one way only. -/
theorem Lays.eq {program : Program} {lines lines' : List Line} (lays : Lays program lines)
    (lays' : Lays program lines') : lines = lines' := by
  have same (width : Nat) (small : width ≤ Limits.maxIndentWidth) :
      lines.map (Line.indented width) = lines'.map (Line.indented width) := by
    apply map_indented_eq_of_layOut_eq lays.unbroken lays'.unbroken
    have rendered := (lays.rendered width).symm.trans (lays'.rendered width)
    rwa [Nat.min_eq_left small] at rendered
  -- No spaces show the texts, and one space for each depth shows the depths.
  have texts := same 0 (Nat.zero_le _)
  have depths := same 1 (by decide)
  have length : lines.length = lines'.length := by
    simpa using congrArg List.length texts
  apply List.ext_getElem length
  intro index inside inside'
  have text := List.getElem_of_eq texts (by simpa using inside)
  have depth := List.getElem_of_eq depths (by simpa using inside)
  simp only [List.getElem_map, Line.indented, Nat.mul_zero, Nat.mul_one, List.replicate_zero,
    List.nil_append] at text depth
  rw [text] at depth
  have depthEq : lines[index].depth = lines'[index].depth := by
    simpa using congrArg List.length depth
  have textEq : lines[index].text = lines'[index].text := String.toList_inj.1 text
  exact congrArg₂ Line.mk depthEq textEq

/-- How many lines a statement takes: one block of eleven for each link of a chain, and for a
definition five besides those of its value. -/
def lineCount : Statement → Nat
  | .operand _ => 7
  | .chain chain => 2 + 11 * (chain.nodes.length - 1)
  | .declare _ => 5
  | .define _ value => 5 + lineCount value

/-- The block of a link: the operand after the operator, the operator, and the operand before it. -/
def linkBlock (depth : Nat) (next : Operand) (operator : String) (current : Operand) :
    List Line := [
  ⟨depth + 1, "\x7b"⟩,
  ⟨depth + 2, "next: \x7b"⟩,
  ⟨depth + 3, "type: \"" ++ next.nodeType.name ++ "\","⟩,
  ⟨depth + 3, "value: \"" ++ next.value ++ "\""⟩,
  ⟨depth + 2, "\x7d,"⟩,
  ⟨depth + 2, "op: \"" ++ operator ++ "\","⟩,
  ⟨depth + 2, "current: \x7b"⟩,
  ⟨depth + 3, "type: \"" ++ current.nodeType.name ++ "\","⟩,
  ⟨depth + 3, "value: \"" ++ current.value ++ "\""⟩,
  ⟨depth + 2, "\x7d"⟩,
  ⟨depth + 1, "\x7d,"⟩]

/-- The blocks of a chain, one for each node but the last. -/
structure AreBlocks (depth : Nat) (chain : Chain) (blocks : List (List Line)) : Prop where
  /-- There is one block less than there are nodes. -/
  count : blocks.length + 1 = chain.nodes.length
  /-- The block of a node shows the operand of the node after it, its operator and its operand. -/
  each : ∀ index < blocks.length, ∃ current operator next after,
    chain.nodes[index]? = some (current, some operator) ∧
      chain.nodes[index + 1]? = some (next, after) ∧
      blocks[index]? = some (linkBlock depth next operator current)

/-- The lines that show a statement at a depth. -/
inductive Shows : Nat → Statement → List Line → Prop
  /-- The type and the text of an operand stand between three lines and two. -/
  | operand {depth : Nat} {operand : Operand} {opening closing : List Line}
    (opens : opening.length = 3) (closes : closing.length = 2) :
    Shows depth (.operand operand) (opening ++
      [⟨depth + 2, "type: \"" ++ operand.nodeType.name ++ "\","⟩,
        ⟨depth + 2, "value: \"" ++ operand.value ++ "\""⟩] ++ closing)
  /-- The blocks of a chain stand between two lines. -/
  | chain {depth : Nat} {chain : Chain} {opening closing : Line} {blocks : List (List Line)}
    (areBlocks : AreBlocks depth chain blocks) :
    Shows depth (.chain chain) (opening :: blocks.flatten ++ [closing])
  /-- A declaration without a value has five lines. -/
  | declare {depth : Nat} {name : String} {lines : List Line} (count : lines.length = 5) :
    Shows depth (.declare name) lines
  /-- The value of a definition stands two levels deeper, between four lines and one. -/
  | define {depth : Nat} {name : String} {value : Statement} {opening shown : List Line}
    {closing : Line} (opens : opening.length = 4) (shows : Shows (depth + 2) value shown) :
    Shows depth (.define name value) (opening ++ shown ++ [closing])

/-- The lines of a link are its block. -/
theorem linkLines_eq_linkBlock (depth : Nat) (current : Operand) (operator : String)
    (next : Operand) :
    linkLines depth current operator next = linkBlock depth next operator current := rfl

/-- The lines of the blocks of a chain are its blocks. -/
theorem exists_areBlocks (depth : Nat) (chain : Chain) :
    ∃ blocks, blockLines depth chain = blocks.flatten ∧ AreBlocks depth chain blocks := by
  induction chain with
  | last operand =>
    exact ⟨[], rfl, rfl, fun index inside => absurd inside (Nat.not_lt_zero index)⟩
  | link operand operator next ih =>
    obtain ⟨blocks, flat, areBlocks⟩ := ih
    refine ⟨linkBlock depth next.first operator operand :: blocks, ?_, ?_, ?_⟩
    · rw [blockLines, flat, linkLines_eq_linkBlock, List.flatten_cons]
    · rw [List.length_cons, Chain.nodes, List.length_cons, areBlocks.count]
    · intro index inside
      cases index with
      | zero =>
        have second : next.nodes[0]? = some (next.first, next.operator?) :=
          Chain.getElem?_nodes next 0
        exact ⟨operand, operator, next.first, next.operator?, rfl, second, rfl⟩
      | succ index => exact areBlocks.each index (Nat.lt_of_succ_lt_succ inside)

/-- Every block of a chain has eleven lines. -/
theorem AreBlocks.length_flatten {chain : Chain} {blocks : List (List Line)}
    (areBlocks : AreBlocks depth chain blocks) :
    blocks.flatten.length = 11 * (chain.nodes.length - 1) := by
  have eleven : ∀ block ∈ blocks, block.length = 11 := by
    intro block member
    obtain ⟨index, found⟩ := List.mem_iff_getElem?.1 member
    obtain ⟨inside, -⟩ := List.getElem?_eq_some_iff.1 found
    obtain ⟨current, operator, next, after, -, -, same⟩ := areBlocks.each index inside
    obtain rfl := Option.some.inj (found.symm.trans same)
    rfl
  have total : blocks.flatten.length = blocks.length * 11 := by
    rw [List.length_flatten, List.map_congr_left eleven, List.map_const', List.sum_replicate_nat]
  have count := areBlocks.count
  omega

/-- The lines of a statement show it. -/
theorem shows_statementLines (depth : Nat) (statement : Statement) :
    Shows depth statement (statementLines depth statement) := by
  induction statement generalizing depth with
  | operand operand => exact .operand rfl rfl
  | chain chain =>
    obtain ⟨blocks, flat, areBlocks⟩ := exists_areBlocks depth chain
    rw [statementLines, flat]
    exact .chain areBlocks
  | declare name => exact .declare rfl
  | define name value ih => exact .define rfl (ih (depth + 2))

/-- Lines that show a statement are as many as it takes. -/
theorem Shows.length_eq {statement : Statement} {shown : List Line}
    (shows : Shows depth statement shown) : shown.length = lineCount statement := by
  induction shows with
  | operand opens closes =>
    rw [List.length_append, List.length_append, opens, closes]
    rfl
  | chain areBlocks =>
    rw [List.length_append, List.length_cons, areBlocks.length_flatten, List.length_singleton,
      lineCount]
    omega
  | declare count => exact count
  | define opens shows ih =>
    rw [List.length_append, List.length_append, opens, ih, List.length_singleton, lineCount]
    omega

/-- How much deeper than a statement its deepest line can stand. -/
def nesting : Statement → Nat
  | .operand _ => 2
  | .chain _ => 3
  | .declare _ => 1
  | .define _ value => 2 + nesting value

/-- The lines of the blocks of a chain stand at most three levels deeper than the chain. -/
theorem depth_le_of_mem_blockLines (chain : Chain) :
    ∀ line ∈ blockLines depth chain, line.depth ≤ depth + 3 := by
  induction chain with
  | last operand =>
    intro line member
    contradiction
  | link operand operator next ih =>
    have block : ∀ line ∈ linkBlock depth next.first operator operand, line.depth ≤ depth + 3 := by
      simp [linkBlock]
    exact List.forall_mem_append.2 ⟨block, ih⟩

/-- The lines of a statement stand no deeper than its nesting allows. -/
theorem depth_le_of_mem_statementLines (statement : Statement) :
    ∀ line ∈ statementLines depth statement, line.depth ≤ depth + nesting statement := by
  induction statement generalizing depth with
  | operand operand => simp [statementLines, operandLines, nesting]
  | chain chain =>
    simp only [statementLines, nesting, List.forall_mem_append, List.forall_mem_cons,
      List.not_mem_nil, false_implies, implies_true, and_true]
    exact ⟨⟨Nat.le_add_right _ _, depth_le_of_mem_blockLines chain⟩, Nat.le_add_right _ _⟩
  | declare name => simp [statementLines, nesting]
  | define name value ih =>
    have deeper : ∀ line ∈ statementLines (depth + 2) value,
        line.depth ≤ depth + (2 + nesting value) := by
      intro line member
      have deepest := ih line member
      omega
    simp only [statementLines, nesting, List.forall_mem_append, List.forall_mem_cons,
      List.not_mem_nil, false_implies, implies_true, and_true]
    exact ⟨⟨by omega, deeper⟩, by omega⟩

/-- The lines that show a program: its statements at depth two, in order and with nothing between,
behind three lines and before two. -/
def ShowsProgram (program : Program) (lines : List Line) : Prop :=
  ∃ opening shown closing, opening.length = 3 ∧ closing.length = 2 ∧
    List.Forall₂ (Shows 2) program.body shown ∧ lines = opening ++ shown.flatten ++ closing

/-- The lines of a program show it. -/
theorem showsProgram_lines (program : Program) : ShowsProgram program (lines program) := by
  have each : List.Forall₂ (Shows 2) program.body (program.body.map (statementLines 2)) := by
    rw [List.forall₂_map_right_iff]
    exact List.forall₂_same.2 fun statement _ => shows_statementLines 2 statement
  rw [lines, List.flatMap_def]
  refine ⟨_, _, _, ?_, ?_, each, rfl⟩ <;> rfl

/-- Lines that show statements one after the other are as many as these take. -/
theorem length_flatten_of_shows {body : List Statement} {shown : List (List Line)}
    (each : List.Forall₂ (Shows depth) body shown) :
    shown.flatten.length = (body.map lineCount).sum := by
  induction each with
  | nil => rfl
  | cons first later ih =>
    rw [List.flatten_cons, List.length_append, first.length_eq, ih, List.map_cons, List.sum_cons]

/-- Lines that show a program are five and those of its statements. -/
theorem ShowsProgram.length_eq {program : Program} {lines : List Line}
    (shows : ShowsProgram program lines) :
    lines.length = 5 + (program.body.map lineCount).sum := by
  obtain ⟨opening, shown, closing, opens, closes, each, rfl⟩ := shows
  rw [List.length_append, List.length_append, opens, closes, length_flatten_of_shows each]
  omega

/-- A statement that can be written nests by at most five levels. -/
theorem nesting_le_of_wellFormed {statement : Statement} (proper : statement.WellFormed) :
    nesting statement ≤ 5 := by
  have value_le {value : Statement} (proper : value.ValueWellFormed) : nesting value ≤ 3 := by
    cases proper <;> simp [nesting]
  cases proper with
  | value proper => exact (value_le proper).trans (by decide)
  | define _ proper =>
    have value := value_le proper
    rw [nesting]
    omega

/-- The lines of a well-formed program stand at most seven levels deep. -/
theorem depth_le_of_wellFormed {program : Program} (proper : program.WellFormed) :
    ∀ line ∈ lines program, line.depth ≤ 7 := by
  have body : ∀ line ∈ program.body.flatMap (statementLines 2), line.depth ≤ 7 := by
    intro line member
    obtain ⟨statement, inside, shown⟩ := List.mem_flatMap.1 member
    have deepest := depth_le_of_mem_statementLines statement line shown
    have levels := nesting_le_of_wellFormed (proper.statements statement inside)
    omega
  simp only [lines, List.forall_mem_append, List.forall_mem_cons, List.not_mem_nil,
    false_implies, implies_true, and_true]
  exact ⟨⟨by decide, body⟩, by decide⟩

/-- A program without newlines in its texts is laid out as one list of lines, the same at every
width. The list shows each statement, and within a chain a block for each link, and its length is
told by the statements. What a run gives has no newlines in its texts, and its lines stand at most
seven levels deep. -/
theorem layout_determined :
    (∀ program : Program, program.IsUnbroken →
      ∃ lines, Lays program lines ∧ (∀ others, Lays program others → others = lines) ∧
        lines.length = 5 + (program.body.map lineCount).sum ∧ ShowsProgram program lines) ∧
      ∀ program : Program, FrontRun.Produces program →
        program.IsUnbroken ∧ ∀ lines, Lays program lines → ∀ line ∈ lines, line.depth ≤ 7 := by
  constructor
  · intro program unbroken
    have shows := showsProgram_lines program
    exact ⟨lines program, lays_lines unbroken, fun others lays => lays.eq (lays_lines unbroken),
      shows.length_eq, shows⟩
  · intro program produced
    have proper := produced.wellFormed
    refine ⟨proper.isUnbroken, fun lines lays line member => ?_⟩
    rw [lays.eq (lays_lines proper.isUnbroken)] at member
    exact depth_le_of_wellFormed proper line member

/-- This definition by a chain of three operands takes twenty-nine lines, and some of them stand as
deep as lines can. -/
theorem layout_determined_definition :
    let program : Program := ⟨[.define "n"
      (.chain (.link (.number "12") "+" (.link (.identifier "x") "-" (.last .null))))]⟩
    FrontRun.Produces program ∧
      ∃ lines, Lays program lines ∧ lines.length = 34 ∧ (∀ line ∈ lines, line.depth ≤ 7) ∧
        ∃ line ∈ lines, line.depth = 7 := by
  intro program
  have outcome : (FrontRun.ofSource? ⟨false, true, true, true⟩ "let n = 12 +é x\n - null").map
      (·.result.toOption.map (·.program)) = some (some program) := rfl
  have produced : FrontRun.Produces program := by
    obtain ⟨run, result, ran, succeeded, same⟩ := FrontRun.exists_result_of_view outcome
    exact same ▸ .ofSource ran succeeded
  obtain ⟨unbroken, shallow⟩ := layout_determined.2 program produced
  obtain ⟨lines, lays, unique, count, -⟩ := layout_determined.1 program unbroken
  have same := unique _ (lays_lines unbroken)
  refine ⟨produced, lines, lays, count, shallow lines lays, ⟨7, "value: \"x\""⟩, ?_, rfl⟩
  rw [← same]
  decide

end Dump

end LexisFront
