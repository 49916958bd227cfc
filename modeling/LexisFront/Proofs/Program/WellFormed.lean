import LexisFront.Proofs.Lexing.Words
import LexisFront.Proofs.Parsing.Grammar

/-!
# Well-formed programs and their words

The type of programs admits more than the grammar does: any text for an operand, a chain of one
operand, a declaration without a value. A program is well formed when each part of it can be
written down. Its words are then the texts of its tokens, in order.

Two facts about words carry the round trip through source text: each of them is a token by
itself, and tokens with these texts, each of the kind that its text decides, spell the program.
-/

namespace LexisFront

namespace Text

/-- A text that can stand as a number. -/
structure IsNumeral (text : String) : Prop where
  /-- A numeral has digits. -/
  nonempty : text ≠ ""
  /-- A numeral has only digits. -/
  digits : ∀ c ∈ text.toList, c.isDigit = true
  /-- A numeral has no more digits than a fragment may have. -/
  short : text.length ≤ Limits.maxFragmentLength

/-- A text that can stand as a name. -/
structure IsName (text : String) : Prop where
  /-- A name has letters. -/
  nonempty : text ≠ ""
  /-- A name has only letters. -/
  letters : ∀ c ∈ text.toList, c.isAlpha = true
  /-- A name is not the keyword of a definition. -/
  ne_let : text ≠ "let"
  /-- A name is not the null literal. -/
  ne_null : text ≠ "null"
  /-- A name has no more letters than a fragment may have. -/
  short : text.length ≤ Limits.maxFragmentLength

end Text

/-- An operand that can be written: a numeral, a name or the null literal. -/
inductive Operand.WellFormed : Operand → Prop
  /-- A number is a numeral. -/
  | number {value : String} (numeral : Text.IsNumeral value) : WellFormed (.number value)
  /-- An identifier is a name. -/
  | identifier {value : String} (name : Text.IsName value) : WellFormed (.identifier value)
  /-- The null literal has one text. -/
  | null : WellFormed .null

/-- The texts of the operators that join operands. -/
def Chain.glyphs : List String := ["+", "-", "*", "/"]

/-- A chain that can be written. -/
inductive Chain.WellFormed : Chain → Prop
  /-- The last operand can be written. -/
  | last {operand : Operand} (proper : operand.WellFormed) : WellFormed (.last operand)
  /-- So can an operand and an operator before the rest. -/
  | link {operand : Operand} {operator : String} {next : Chain} (proper : operand.WellFormed)
    (joins : operator ∈ glyphs) (follows : next.WellFormed) :
    WellFormed (.link operand operator next)

/-- A value that can be written: an operand, or a chain of at least two operands and of no more
than allowed. -/
inductive Statement.ValueWellFormed : Statement → Prop
  /-- An operand can be written. -/
  | operand {operand : Operand} (proper : operand.WellFormed) : ValueWellFormed (.operand operand)
  /-- A chain can be written. -/
  | chain {chain : Chain} (proper : chain.WellFormed) (several : 2 ≤ chain.size)
    (bound : chain.size ≤ Limits.maxChainLength) : ValueWellFormed (.chain chain)

/-- A statement that can be written: a value, or the definition of a name by a value. -/
inductive Statement.WellFormed : Statement → Prop
  /-- A value can be written. -/
  | value {value : Statement} (proper : value.ValueWellFormed) : WellFormed value
  /-- A name can be defined. -/
  | define {name : String} {value : Statement} (named : Text.IsName name)
    (proper : value.ValueWellFormed) : WellFormed (.define name value)

/-- A program of statements that can be written, no more of them than allowed. -/
structure Program.WellFormed (program : Program) : Prop where
  /-- Every statement can be written. -/
  statements : ∀ statement ∈ program.body, statement.WellFormed
  /-- There are no more statements than allowed. -/
  few : program.size ≤ Limits.maxStatements

/-- The words of a chain: operands and operators in order. -/
def Chain.words : Chain → List String
  | last operand => [operand.value]
  | link operand operator next => operand.value :: operator :: next.words

/-- The words of a statement. -/
def Statement.words : Statement → List String
  | .operand single => [single.value]
  | .chain whole => whole.words
  | .declare name => ["let", name]
  | .define name value => "let" :: name :: "=" :: value.words

/-- The words of a program. -/
def Program.words (program : Program) : List String :=
  program.body.flatMap Statement.words

/-- A program written down: its words, with single spaces between them. -/
def Program.source (program : Program) : String :=
  " ".intercalate program.words

namespace Text

variable {text : String}

/-- A text that is not empty has characters. -/
theorem toList_ne_nil (nonempty : text ≠ "") : text.toList ≠ [] := by
  intro empty
  exact nonempty (String.toList_inj.1 empty)

/-- The keyword of a definition is a word. -/
theorem isWord_let : IsWord "let".toList where
  nonempty := by decide
  short := by decide
  shape := .inr (.inr (List.all_eq_true.1 rfl))

/-- The null literal is a word. -/
theorem isWord_null : IsWord "null".toList where
  nonempty := by decide
  short := by decide
  shape := .inr (.inr (List.all_eq_true.1 rfl))

/-- The sign of an assignment is a word. -/
theorem isWord_assign : IsWord "=".toList where
  nonempty := by decide
  short := by decide
  shape := .inl ⟨'=', .assign, rfl, rfl⟩

/-- A numeral is a word. -/
theorem IsNumeral.isWord (numeral : IsNumeral text) : IsWord text.toList where
  nonempty := toList_ne_nil numeral.nonempty
  short := numeral.short
  shape := .inr (.inl numeral.digits)

/-- A name is a word. -/
theorem IsName.isWord (name : IsName text) : IsWord text.toList where
  nonempty := toList_ne_nil name.nonempty
  short := name.short
  shape := .inr (.inr name.letters)

/-- A word without a glyph has the kind that its characters decide. -/
theorem tokenKind_of_isAlphanum {word : List Char} (nonempty : word ≠ [])
    (proper : ∀ c ∈ word, c.isAlphanum = true) :
    tokenKind word = if word.all Char.isDigit then .number else Fragment.wordKind word := by
  obtain ⟨first, rest, rfl⟩ := List.exists_cons_of_ne_nil nonempty
  rw [tokenKind, List.head?_cons, Option.bind_some,
    lookup_glyphKinds_of_isAlphanum (proper first List.mem_cons_self)]

/-- The token of a numeral is a number. -/
theorem IsNumeral.tokenKind_eq (numeral : IsNumeral text) : tokenKind text.toList = .number := by
  rw [tokenKind_of_isAlphanum (toList_ne_nil numeral.nonempty) fun c member => by
      simp [Char.isAlphanum, numeral.digits c member],
    if_pos (List.all_eq_true.2 numeral.digits)]

/-- A letter is no digit. -/
theorem isDigit_of_isAlpha {c : Char} (letter : c.isAlpha = true) : c.isDigit = false := by
  rw [Bool.eq_false_iff]
  intro digit
  have letters := toNat_of_isAlpha letter
  have digits := toNat_of_isDigit digit
  omega

/-- The token of a name is an identifier. -/
theorem IsName.tokenKind_eq (name : IsName text) : tokenKind text.toList = .identifier := by
  have noNumber : ¬ text.toList.all Char.isDigit = true := by
    obtain ⟨first, rest, shape⟩ := List.exists_cons_of_ne_nil (toList_ne_nil name.nonempty)
    have letter := isDigit_of_isAlpha (name.letters first (by simp [shape]))
    simp [shape, letter]
  rw [tokenKind_of_isAlphanum (toList_ne_nil name.nonempty) fun c member => by
      simp [Char.isAlphanum, name.letters c member],
    if_neg noNumber, Fragment.wordKind, if_neg (mt String.toList_inj.1 name.ne_let),
    if_neg (mt String.toList_inj.1 name.ne_null)]

/-- The glyph of an operator is a word, and its token is an arithmetic operator. -/
theorem isWord_of_mem_glyphs (joins : text ∈ Chain.glyphs) :
    IsWord text.toList ∧ (tokenKind text.toList).isArithmetic = true := by
  simp only [Chain.glyphs, List.mem_cons, List.not_mem_nil, or_false] at joins
  rcases joins with rfl | rfl | rfl | rfl
  · exact ⟨⟨by decide, by decide, .inl ⟨'+', .plus, rfl, rfl⟩⟩, rfl⟩
  · exact ⟨⟨by decide, by decide, .inl ⟨'-', .minus, rfl, rfl⟩⟩, rfl⟩
  · exact ⟨⟨by decide, by decide, .inl ⟨'*', .multiply, rfl, rfl⟩⟩, rfl⟩
  · exact ⟨⟨by decide, by decide, .inl ⟨'/', .divide, rfl, rfl⟩⟩, rfl⟩

end Text

/-- A token of the kind that its text decides. -/
def Token.IsPlain (token : Token) : Prop :=
  token.kind = Text.tokenKind token.value.toList

namespace Operand

variable {operand : Operand}

/-- The text of an operand is a word. -/
theorem WellFormed.isWord (proper : operand.WellFormed) : Text.IsWord operand.value.toList := by
  cases proper with
  | number numeral => exact numeral.isWord
  | identifier name => exact name.isWord
  | null => exact Text.isWord_null

/-- A plain token with the text of an operand spells it. -/
theorem WellFormed.spelledBy (proper : operand.WellFormed) {token : Token}
    (plain : token.IsPlain) (same : token.value = operand.value) : operand.SpelledBy token := by
  refine ⟨?_, same.symm⟩
  rw [plain, same]
  cases proper with
  | number numeral => exact congrArg some numeral.tokenKind_eq.symm
  | identifier name => exact congrArg some name.tokenKind_eq.symm
  | null => rfl

end Operand

namespace Chain

variable {chain : Chain}

/-- Every word of a chain is a word. -/
theorem WellFormed.isWord_of_mem_words (proper : chain.WellFormed) {word : String}
    (member : word ∈ chain.words) : Text.IsWord word.toList := by
  induction proper with
  | last proper =>
    obtain rfl := List.mem_singleton.1 member
    exact proper.isWord
  | link proper joins follows ih =>
    rcases List.mem_cons.1 member with rfl | member
    · exact proper.isWord
    rcases List.mem_cons.1 member with rfl | member
    · exact (Text.isWord_of_mem_glyphs joins).1
    · exact ih member

/-- Plain tokens with the words of a chain spell it. -/
theorem WellFormed.spelledBy (proper : chain.WellFormed) {tokens : List Token}
    (plain : ∀ token ∈ tokens, token.IsPlain) (same : tokens.map (·.value) = chain.words) :
    chain.SpelledBy tokens := by
  induction proper generalizing tokens with
  | last proper =>
    obtain ⟨token, rest, rfl, first, none⟩ := List.map_eq_cons_iff.1 same
    obtain rfl := List.map_eq_nil_iff.1 none
    exact .last (proper.spelledBy (plain token List.mem_cons_self) first)
  | link proper joins follows ih =>
    obtain ⟨token, after, rfl, first, sameAfter⟩ := List.map_eq_cons_iff.1 same
    obtain ⟨operator, rest, rfl, rfl, sameRest⟩ := List.map_eq_cons_iff.1 sameAfter
    obtain ⟨plainToken, plainOperator, plainRest⟩ :
        token.IsPlain ∧ operator.IsPlain ∧ ∀ token ∈ rest, token.IsPlain := by
      simpa using plain
    have arithmetic : operator.kind.isArithmetic = true := by
      rw [plainOperator]
      exact (Text.isWord_of_mem_glyphs joins).2
    exact .link (proper.spelledBy plainToken first) arithmetic (ih plainRest sameRest)

end Chain

namespace Statement

variable {statement value : Statement}

/-- Every word of a value is a word. -/
theorem ValueWellFormed.isWord_of_mem_words (proper : value.ValueWellFormed) {word : String}
    (member : word ∈ value.words) : Text.IsWord word.toList := by
  cases proper with
  | operand proper =>
    obtain rfl := List.mem_singleton.1 member
    exact proper.isWord
  | chain proper _ _ => exact proper.isWord_of_mem_words member

/-- Every word of a statement is a word. -/
theorem WellFormed.isWord_of_mem_words (proper : statement.WellFormed) {word : String}
    (member : word ∈ statement.words) : Text.IsWord word.toList := by
  cases proper with
  | value proper => exact proper.isWord_of_mem_words member
  | define named proper =>
    rcases List.mem_cons.1 member with rfl | member
    · exact Text.isWord_let
    rcases List.mem_cons.1 member with rfl | member
    · exact named.isWord
    rcases List.mem_cons.1 member with rfl | member
    · exact Text.isWord_assign
    · exact proper.isWord_of_mem_words member

/-- Plain tokens with the words of a value spell it. -/
theorem ValueWellFormed.spelledBy (proper : value.ValueWellFormed) {tokens : List Token}
    (plain : ∀ token ∈ tokens, token.IsPlain) (same : tokens.map (·.value) = value.words) :
    value.ValueSpelledBy tokens := by
  cases proper with
  | operand proper =>
    obtain ⟨token, rest, rfl, first, none⟩ := List.map_eq_cons_iff.1 same
    obtain rfl := List.map_eq_nil_iff.1 none
    exact .operand (proper.spelledBy (plain token List.mem_cons_self) first)
  | chain proper several _ => exact .chain (proper.spelledBy plain same) several

/-- Plain tokens with the words of a statement spell it. -/
theorem WellFormed.spelledBy (proper : statement.WellFormed) {tokens : List Token}
    (plain : ∀ token ∈ tokens, token.IsPlain) (same : tokens.map (·.value) = statement.words) :
    statement.SpelledBy tokens := by
  cases proper with
  | value proper => exact .value (proper.spelledBy plain same)
  | define named proper =>
    obtain ⟨word, afterWord, rfl, opens, sameWord⟩ := List.map_eq_cons_iff.1 same
    obtain ⟨name, afterName, rfl, rfl, sameName⟩ := List.map_eq_cons_iff.1 sameWord
    obtain ⟨assign, rest, rfl, assigns, sameRest⟩ := List.map_eq_cons_iff.1 sameName
    obtain ⟨plainWord, plainName, plainAssign, plainRest⟩ :
        word.IsPlain ∧ name.IsPlain ∧ assign.IsPlain ∧ ∀ token ∈ rest, token.IsPlain := by
      simpa using plain
    have wordKind : word.kind = .letWord := by
      rw [plainWord, opens]
      rfl
    have assignKind : assign.kind = .assign := by
      rw [plainAssign, assigns]
      rfl
    exact .define wordKind (plainName.trans named.tokenKind_eq) assignKind
      (proper.spelledBy plainRest sameRest)

/-- The chains of a value are within the limit. -/
theorem ValueWellFormed.size_le_of_mem_chains (proper : value.ValueWellFormed) {chain : Chain}
    (member : chain ∈ value.chains) : chain.size ≤ Limits.maxChainLength := by
  cases proper with
  | operand proper => contradiction
  | chain proper several bound =>
    obtain rfl := List.mem_singleton.1 member
    exact bound

/-- The chains of a statement are within the limit. -/
theorem WellFormed.size_le_of_mem_chains (proper : statement.WellFormed) {chain : Chain}
    (member : chain ∈ statement.chains) : chain.size ≤ Limits.maxChainLength := by
  cases proper with
  | value proper => exact proper.size_le_of_mem_chains member
  | define named proper => exact proper.size_le_of_mem_chains member

end Statement

namespace Program

variable {program : Program}

/-- Every word of a program is a word. -/
theorem WellFormed.isWord_of_mem_words (proper : program.WellFormed) {word : String}
    (member : word ∈ program.words) : Text.IsWord word.toList := by
  obtain ⟨statement, inside, member⟩ := List.mem_flatMap.1 member
  exact (proper.statements statement inside).isWord_of_mem_words member

/-- The chains of a program are within the limit. -/
theorem WellFormed.size_le_of_mem_chains (proper : program.WellFormed) {chain : Chain}
    (member : chain ∈ program.chains) : chain.size ≤ Limits.maxChainLength := by
  obtain ⟨statement, inside, member⟩ := List.mem_flatMap.1 member
  exact (proper.statements statement inside).size_le_of_mem_chains member

/-- Plain tokens with the words of statements spell the program of these statements. -/
theorem spelledBy_of_forall_wellFormed {body : List Statement}
    (proper : ∀ statement ∈ body, statement.WellFormed) {tokens : List Token}
    (plain : ∀ token ∈ tokens, token.IsPlain)
    (same : tokens.map (·.value) = body.flatMap Statement.words) :
    (⟨body⟩ : Program).SpelledBy tokens := by
  induction body generalizing tokens with
  | nil =>
    obtain rfl := List.map_eq_nil_iff.1 same
    exact spelledBy_nil
  | cons statement body ih =>
    rw [List.flatMap_cons] at same
    obtain ⟨run, rest, rfl, first, later⟩ := List.map_eq_append_iff.1 same
    have spelled : statement.SpelledBy run := (proper statement List.mem_cons_self).spelledBy
      (fun token member => plain token (List.mem_append_left _ member)) first
    have others : (⟨body⟩ : Program).SpelledBy rest :=
      ih (fun statement member => proper statement (List.mem_cons_of_mem _ member))
        (fun token member => plain token (List.mem_append_right _ member)) later
    exact .cons spelled others

end Program

end LexisFront
