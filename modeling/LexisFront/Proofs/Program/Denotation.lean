import LexisFront.Program.Codec
import Mathlib.Data.List.Forall2
import Mathlib.Data.List.Nodup
import Mathlib.Data.List.Perm.Basic

/-!
# Structured values that denote programs

Which structured values stand for a program is said here by rules, one for each form of a node and
without the reader. A record is an object of its fields in any order, since the order of fields has
no meaning. What is absent, the link of the last node of a chain or the value of a declaration, is
null or is left out. What is written for a program is one of these values, and each of them is read
back as the program: no text, no node type and no nesting is lost on the way.
-/

namespace LexisFront

/-- An object of the node type and the text of an operand stands for it. -/
def Operand.DenotedBy (operand : Operand) (json : Json) : Prop :=
  ∃ fields, json = .object fields ∧ fields.Perm
    [("node_type", .string operand.nodeType.name), ("value", .string operand.value)]

/-- The values that stand for a chain. -/
inductive Chain.DenotedBy : Chain → Json → Prop
  /-- The last operand has null for a link. -/
  | last {operand : Operand} {current : Json} {fields : List (String × Json)}
    (denoted : operand.DenotedBy current)
    (order : fields.Perm [("current", current), ("link", .null)]) :
    DenotedBy (.last operand) (.object fields)
  /-- The link of the last operand may be left out. -/
  | lastAlone {operand : Operand} {current : Json} (denoted : operand.DenotedBy current) :
    DenotedBy (.last operand) (.object [("current", current)])
  /-- The link of any other operand has the operator and what follows. -/
  | link {operand : Operand} {operator : String} {next : Chain} {current following : Json}
    {fields tail : List (String × Json)} (denoted : operand.DenotedBy current)
    (follows : next.DenotedBy following)
    (tailOrder : tail.Perm [("operator", .string operator), ("next", following)])
    (order : fields.Perm [("current", current), ("link", .object tail)]) :
    DenotedBy (.link operand operator next) (.object fields)

/-- The values that stand for a statement. -/
inductive Statement.DenotedBy : Statement → Json → Prop
  /-- An operand stands under the name of its form. -/
  | operand {operand : Operand} {content : Json} (denoted : operand.DenotedBy content) :
    DenotedBy (.operand operand) (.object [("RegularExpression", content)])
  /-- So does a chain. -/
  | chain {chain : Chain} {content : Json} (denoted : chain.DenotedBy content) :
    DenotedBy (.chain chain) (.object [("BinaryExpression", content)])
  /-- A declaration without a value has null for it. -/
  | declare {name : String} {fields : List (String × Json)}
    (order : fields.Perm [("identifier", .string name), ("value", .null)]) :
    DenotedBy (.declare name) (.object [("VariableDeclaration", .object fields)])
  /-- The value may be left out. -/
  | declareAlone {name : String} :
    DenotedBy (.declare name)
      (.object [("VariableDeclaration", .object [("identifier", .string name)])])
  /-- A definition has a value that is a statement. -/
  | define {name : String} {value : Statement} {content : Json} {fields : List (String × Json)}
    (denoted : value.DenotedBy content)
    (order : fields.Perm [("identifier", .string name), ("value", content)]) :
    DenotedBy (.define name value) (.object [("VariableDeclaration", .object fields)])

/-- The values that stand for a program. -/
def Program.DenotedBy (program : Program) (json : Json) : Prop :=
  ∃ items, json = .object [("body", .array items)] ∧
    List.Forall₂ Statement.DenotedBy program.body items

namespace Json

/-- A field is found under its name when no name is given twice. -/
theorem field?_eq_some_of_mem {fields : List (String × Json)} {name : String} {value : Json}
    (distinct : (fields.map Prod.fst).Nodup) (member : (name, value) ∈ fields) :
    field? fields name = some value := by
  cases found : fields.reverse.find? (·.1 == name) with
  | none =>
    have absent := List.find?_eq_none.1 found (name, value) (List.mem_reverse.2 member)
    simp at absent
  | some entry =>
    have inside : entry ∈ fields := List.mem_reverse.1 (List.mem_of_find?_eq_some found)
    have named : entry.1 = name := by simpa using List.find?_some found
    have same : entry = (name, value) := List.inj_on_of_nodup_map distinct inside member named
    rw [field?, found, same]
    rfl

variable {first second : String} {left right : Json}

/-- The two fields of a record are read in any order. -/
theorem pair?_of_perm (distinct : first ≠ second) {fields : List (String × Json)}
    (order : fields.Perm [(first, left), (second, right)]) (optional : Bool) :
    (object fields).pair? first second optional = some (left, right) := by
  have names : (fields.map Prod.fst).Nodup :=
    (order.map Prod.fst).nodup_iff.2 (by simpa using distinct)
  have foundFirst : field? fields first = some left :=
    field?_eq_some_of_mem names (order.mem_iff.2 List.mem_cons_self)
  have foundSecond : field? fields second = some right :=
    field?_eq_some_of_mem names (order.mem_iff.2 (by simp))
  rw [pair?, foundFirst, foundSecond]

/-- An optional field that is left out is read as null. -/
theorem pair?_of_single (distinct : first ≠ second) :
    (object [(first, left)]).pair? first second true = some (left, .null) := by
  simp [pair?, field?, distinct]

end Json

/-- A value that stands for an operand is read as it. -/
theorem Operand.ofJson?_of_denotedBy {operand : Operand} {json : Json}
    (denoted : operand.DenotedBy json) : ofJson? json = some operand := by
  obtain ⟨fields, rfl, order⟩ := denoted
  simp only [ofJson?, Json.pair?_of_perm (by decide) order, Option.bind_some, NodeType.ofJson?,
    Json.alternative?, NodeType.ofName?_name, Json.string?, Option.map_some]

namespace Chain

variable {json current tail following : Json} {operand : Operand} {operator : String} {next : Chain}

/-- A record of an operand and null is read as the last operand. -/
theorem ofJson?_eq_last (record : json.pair? "current" "link" true = some (current, .null))
    (read : Operand.ofJson? current = some operand) : ofJson? json = some (.last operand) := by
  rw [ofJson?]
  split
  case h_1 missing => exact absurd (record.symm.trans missing) (Option.some_ne_none _)
  case h_2 found =>
    obtain ⟨rfl, rfl⟩ := Prod.mk.inj (Option.some.inj (record.symm.trans found))
    simp only [read]
    rfl

/-- A record of an operand and a link is read as the operand before what the link has. -/
theorem ofJson?_eq_link (record : json.pair? "current" "link" true = some (current, tail))
    (read : Operand.ofJson? current = some operand)
    (tailRecord : tail.pair? "operator" "next" false = some (.string operator, following))
    (follows : ofJson? following = some next) :
    ofJson? json = some (.link operand operator next) := by
  rw [ofJson?]
  split
  case h_1 missing => exact absurd (record.symm.trans missing) (Option.some_ne_none _)
  case h_2 found =>
    obtain ⟨rfl, rfl⟩ := Prod.mk.inj (Option.some.inj (record.symm.trans found))
    simp only [read]
    split
    case h_1 missing => exact absurd (tailRecord.symm.trans missing) (Option.some_ne_none _)
    case h_2 found =>
      obtain ⟨rfl, rfl⟩ := Prod.mk.inj (Option.some.inj (tailRecord.symm.trans found))
      simp only [Json.string?, follows]

/-- A value that stands for a chain is read as it. -/
theorem ofJson?_of_denotedBy {chain : Chain} (denoted : chain.DenotedBy json) :
    ofJson? json = some chain := by
  induction denoted with
  | last denoted order =>
    exact ofJson?_eq_last (Json.pair?_of_perm (by decide) order true)
      (Operand.ofJson?_of_denotedBy denoted)
  | lastAlone denoted =>
    exact ofJson?_eq_last (Json.pair?_of_single (by decide)) (Operand.ofJson?_of_denotedBy denoted)
  | link denoted follows tailOrder order ih =>
    exact ofJson?_eq_link (Json.pair?_of_perm (by decide) order true)
      (Operand.ofJson?_of_denotedBy denoted) (Json.pair?_of_perm (by decide) tailOrder false) ih

end Chain

namespace Statement

variable {content inner : Json} {name : String} {value : Statement}

/-- A record of a name and null is read as a declaration without a value. -/
theorem ofJson?_eq_declare
    (record : content.pair? "identifier" "value" true = some (.string name, .null)) :
    ofJson? (.object [("VariableDeclaration", content)]) = some (.declare name) := by
  rw [ofJson?]
  split
  case h_1 missing => exact absurd (record.symm.trans missing) (Option.some_ne_none _)
  case h_2 found =>
    obtain ⟨rfl, rfl⟩ := Prod.mk.inj (Option.some.inj (record.symm.trans found))
    rfl

/-- A record of a name and a statement is read as a definition. -/
theorem ofJson?_eq_define
    (record : content.pair? "identifier" "value" true = some (.string name, inner))
    (read : ofJson? inner = some value) :
    ofJson? (.object [("VariableDeclaration", content)]) = some (.define name value) := by
  have present : inner ≠ .null := by
    rintro rfl
    simp [ofJson?] at read
  rw [ofJson?]
  split
  case h_1 missing => exact absurd (record.symm.trans missing) (Option.some_ne_none _)
  case h_2 found =>
    obtain ⟨rfl, rfl⟩ := Prod.mk.inj (Option.some.inj (record.symm.trans found))
    simp only [Json.string?, read, Option.map_some]
    cases inner with
    | null => exact absurd rfl present
    | _ => rfl

/-- A value that stands for a statement is read as it. -/
theorem ofJson?_of_denotedBy {statement : Statement} {json : Json}
    (denoted : statement.DenotedBy json) : ofJson? json = some statement := by
  induction denoted with
  | operand denoted => rw [ofJson?, Operand.ofJson?_of_denotedBy denoted, Option.map_some]
  | chain denoted => rw [ofJson?, Chain.ofJson?_of_denotedBy denoted, Option.map_some]
  | declare order => exact ofJson?_eq_declare (Json.pair?_of_perm (by decide) order true)
  | declareAlone => exact ofJson?_eq_declare (Json.pair?_of_single (by decide))
  | define denoted order ih =>
    exact ofJson?_eq_define (Json.pair?_of_perm (by decide) order true) ih

end Statement

/-- What is written for an operand stands for it. -/
theorem Operand.denotedBy_toJson (operand : Operand) : operand.DenotedBy operand.toJson :=
  ⟨_, rfl, .refl _⟩

/-- What is written for a chain stands for it. -/
theorem Chain.denotedBy_toJson (chain : Chain) : chain.DenotedBy chain.toJson := by
  induction chain with
  | last operand => exact .last operand.denotedBy_toJson (.refl _)
  | link operand operator next ih =>
    exact .link operand.denotedBy_toJson ih (.refl _) (.refl _)

/-- What is written for a statement stands for it. -/
theorem Statement.denotedBy_toJson (statement : Statement) :
    statement.DenotedBy statement.toJson := by
  induction statement with
  | operand operand => exact .operand operand.denotedBy_toJson
  | chain chain => exact .chain chain.denotedBy_toJson
  | declare name => exact .declare (.refl _)
  | define name value ih => exact .define ih (.refl _)

namespace Program

/-- What is written for a program stands for it. -/
theorem denotedBy_toJson (program : Program) : program.DenotedBy program.toJson := by
  refine ⟨_, rfl, ?_⟩
  rw [List.forall₂_map_right_iff]
  exact List.forall₂_same.2 fun statement _ => statement.denotedBy_toJson

/-- Values that stand for statements are read as them, in order. -/
theorem mapM_ofJson?_of_forall₂ {body : List Statement} {items : List Json}
    (each : List.Forall₂ Statement.DenotedBy body items) :
    items.mapM Statement.ofJson? = some body := by
  induction each with
  | nil => rfl
  | cons first later ih =>
    rw [List.mapM_cons, Statement.ofJson?_of_denotedBy first, ih]
    rfl

/-- A program is read back from what is written for it, and from every other value that stands for
it, whatever the order of its fields is and whether absent parts are null or left out. -/
theorem ofJson?_eq_of_denotedBy (program : Program) :
    ofJson? program.toJson = some program ∧
      program.DenotedBy program.toJson ∧
      ∀ json, program.DenotedBy json → ofJson? json = some program := by
  have reads : ∀ json, program.DenotedBy json → ofJson? json = some program := by
    rintro json ⟨items, rfl, each⟩
    have found : Json.field? [("body", .array items)] "body" = some (.array items) := rfl
    rw [ofJson?, found, Option.bind_some, bodyOfJson?, mapM_ofJson?_of_forall₂ each,
      Option.map_some]
  exact ⟨reads _ program.denotedBy_toJson, program.denotedBy_toJson, reads⟩

/-- The declaration inside this definition has no value at all, nor has the last operand of the
chain a link, and the fields of the chain stand in the order of their names. -/
theorem ofJson?_eq_of_denotedBy_omitted :
    let program : Program := ⟨[.define "n" (.declare "\"é\n"),
      .chain (.link ⟨.program, "a"⟩ "+" (.last .null))]⟩
    let json : Json := .object [("body", .array [
      .object [("VariableDeclaration", .object [("identifier", .string "n"),
        ("value", .object [("VariableDeclaration",
          .object [("identifier", .string "\"é\n")])])])],
      .object [("BinaryExpression", .object [
        ("current", .object [("node_type", .string "Program"), ("value", .string "a")]),
        ("link", .object [
          ("next", .object [("current",
            .object [("node_type", .string "NullLiteral"), ("value", .string "null")])]),
          ("operator", .string "+")])])]])]
    program.DenotedBy json ∧ ofJson? json = some program := by
  intro program json
  have definition : (Statement.define "n" (.declare "\"é\n")).DenotedBy _ :=
    .define .declareAlone (.refl _)
  have chain : (Statement.chain (.link ⟨.program, "a"⟩ "+" (.last .null))).DenotedBy _ :=
    .chain (.link ⟨_, rfl, .refl _⟩ (.lastAlone ⟨_, rfl, .refl _⟩) (.swap _ _ _) (.refl _))
  have denoted : program.DenotedBy json := ⟨_, rfl, .cons definition (.cons chain .nil)⟩
  exact ⟨denoted, (ofJson?_eq_of_denotedBy program).2.2 json denoted⟩

end Program

end LexisFront
