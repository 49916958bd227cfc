import LexisFront.Json.Basic
import LexisFront.Program.Basic
import LexisFront.Token.Sequence

/-!
# Programs and tokens as structured values

A record is an object with its fields by name, and a choice is an object with one field named
for the alternative. Reading is a little more generous than writing: a record may also be an
array of its fields in order, an absent optional field is null, a field without meaning is
ignored, and an alternative without content may carry null.
-/

namespace LexisFront

/-- A position as a structured value. -/
def Position.toJson (position : Position) : Json :=
  .object [("offset", .number position.offset), ("line", .number position.line),
    ("column", .number position.column)]

/-- A span as a structured value. -/
def Span.toJson (span : Span) : Json :=
  .object [("start", span.start.toJson), ("end", span.stop.toJson)]

/-- A token as a structured value. -/
def Token.toJson (token : Token) : Json :=
  .object [("kind", .string token.kind.name), ("value", .string token.value),
    ("span", token.span.toJson)]

/-- A token sequence as a structured value. -/
def TokenSequence.toJson (sequence : TokenSequence) : Json :=
  .array (sequence.toList.map Token.toJson)

/-- An operand as a structured value. -/
def Operand.toJson (operand : Operand) : Json :=
  .object [("node_type", .string operand.nodeType.name), ("value", .string operand.value)]

/-- A chain as a structured value. -/
def Chain.toJson : Chain → Json
  | .last operand => .object [("current", operand.toJson), ("link", .null)]
  | .link operand operator next =>
    .object [("current", operand.toJson),
      ("link", .object [("operator", .string operator), ("next", next.toJson)])]

/-- A statement as a structured value. -/
def Statement.toJson : Statement → Json
  | .operand single => .object [("RegularExpression", single.toJson)]
  | .chain links => .object [("BinaryExpression", links.toJson)]
  | .declare name =>
    .object [("VariableDeclaration", .object [("identifier", .string name), ("value", .null)])]
  | .define name value =>
    .object [("VariableDeclaration",
      .object [("identifier", .string name), ("value", value.toJson)])]

/-- A program as a structured value. -/
def Program.toJson (program : Program) : Json :=
  .object [("body", .array (program.body.map Statement.toJson))]

namespace Json

/-- Reads a text. -/
def string? : Json → Option String
  | .string value => some value
  | _ => none

/-- Reads the name of an alternative without content: a text, or an object with null under that
name alone. -/
def alternative? : Json → Option String
  | .string name => some name
  | .object [(name, .null)] => some name
  | _ => none

/-- Reads the two fields of a record; `optional` says whether the second may be absent. -/
def pair? (first second : String) (optional : Bool) : Json → Option (Json × Json)
  | .array [left, right] => some (left, right)
  | .object fields =>
    match field? fields first, field? fields second with
    | some left, some right => some (left, right)
    | some left, none => if optional then some (left, .null) else none
    | none, _ => none
  | _ => none

/-- A value that is found under a field name is smaller than the object. -/
theorem sizeOf_field?_lt {fields : List (String × Json)} {name : String} {value : Json}
    (found : field? fields name = some value) : sizeOf value < sizeOf (Json.object fields) := by
  obtain ⟨entry, entryFound, rfl⟩ := Option.map_eq_some_iff.1 found
  have member : entry ∈ fields := List.mem_reverse.1 (List.mem_of_find?_eq_some entryFound)
  have smaller := List.sizeOf_lt_of_mem member
  cases entry
  simp only [Prod.mk.sizeOf_spec] at smaller
  simp only [object.sizeOf_spec]
  omega

/-- The second field of a record is smaller than the record. -/
theorem sizeOf_pair?_lt {first second : String} {optional : Bool} {json left right : Json}
    (read : json.pair? first second optional = some (left, right)) :
    sizeOf right < sizeOf json := by
  unfold pair? at read
  split at read
  · cases read
    simp only [array.sizeOf_spec, List.cons.sizeOf_spec]
    omega
  · next fields =>
    split at read
    · next found =>
      cases read
      exact sizeOf_field?_lt found
    · split at read
      · cases read
        simp only [object.sizeOf_spec, null.sizeOf_spec]
        have : 0 < sizeOf fields := by cases fields <;> simp only [List.nil.sizeOf_spec,
          List.cons.sizeOf_spec] <;> omega
        omega
      · cases read
    · cases read
  · cases read

end Json

namespace NodeType

/-- Reads a node type. -/
def ofJson? (json : Json) : Option NodeType :=
  json.alternative?.bind ofName?

end NodeType

/-- Reads a kind of token. -/
def Kind.ofJson? (json : Json) : Option Kind :=
  json.alternative?.bind ofName?

namespace Operand

/-- Reads an operand. -/
def ofJson? (json : Json) : Option Operand :=
  (json.pair? "node_type" "value" false).bind fun (nodeType, value) =>
    (NodeType.ofJson? nodeType).bind fun nodeType =>
      value.string?.map fun value => ⟨nodeType, value⟩

end Operand

namespace Chain

/-- Reads a chain. -/
def ofJson? (json : Json) : Option Chain :=
  match record : json.pair? "current" "link" true with
  | none => none
  | some (current, tail) =>
    match Operand.ofJson? current with
    | none => none
    | some operand =>
      match tailRecord : tail.pair? "operator" "next" false with
      | none => if tail matches .null then some (.last operand) else none
      | some (operator, following) =>
        match operator.string?, ofJson? following with
        | some operator, some next => some (.link operand operator next)
        | _, _ => none
termination_by sizeOf json
decreasing_by
  exact Nat.lt_trans (Json.sizeOf_pair?_lt tailRecord) (Json.sizeOf_pair?_lt record)

end Chain

namespace Statement

/-- Reads a statement. -/
def ofJson? (json : Json) : Option Statement :=
  match json with
  | .object [("RegularExpression", content)] => (Operand.ofJson? content).map .operand
  | .object [("BinaryExpression", content)] => (Chain.ofJson? content).map .chain
  | .object [("VariableDeclaration", content)] =>
    match record : content.pair? "identifier" "value" true with
    | none => none
    | some (name, value) =>
      match name.string? with
      | none => none
      | some name =>
        if value matches .null then some (.declare name)
        else (ofJson? value).map (.define name)
  | _ => none
termination_by sizeOf json
decreasing_by
  have smaller := Json.sizeOf_pair?_lt record
  simp only [Json.object.sizeOf_spec, List.cons.sizeOf_spec, Prod.mk.sizeOf_spec]
  omega

end Statement

namespace Program

/-- Reads the statements of a program. -/
def bodyOfJson? : Json → Option Program
  | .array items => (items.mapM Statement.ofJson?).map Program.mk
  | _ => none

/-- Reads a program. -/
def ofJson? : Json → Option Program
  | .array [body] => bodyOfJson? body
  | .object fields => (Json.field? fields "body").bind bodyOfJson?
  | _ => none

end Program

end LexisFront
