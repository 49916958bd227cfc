import LexisFront.CommandLine
import Mathlib.Data.List.Induction

/-!
# Arguments in any order

Arguments are read from left to right, and the first one that cannot be read ends the reading. What
comes of it nevertheless depends only on which arguments there are. An argument is a switch, an
unknown option or a path by itself; the arguments can be read when none is unknown and at most one
is a path; and what they ask for is said by membership alone. Only the message of a refusal looks at
the order, since it names the first argument that cannot be read.

One lemma says what one more argument does to options that the arguments before it ask for. The
outcome of a reading follows by induction on the last argument.
-/

namespace LexisFront.Options

/-- The arguments that switch something on. -/
def switches : List String := ["--json", "--tokens-only", "--help", "-h"]

/-- Whether an argument begins with two dashes and is no switch. -/
def isUnknown (argument : String) : Bool :=
  decide ("--".toList <+: argument.toList ∧ argument ∉ switches)

/-- Whether an argument neither begins with two dashes nor is a switch. -/
def isPath (argument : String) : Bool :=
  decide (¬ "--".toList <+: argument.toList ∧ argument ∉ switches)

/-- Arguments that can be read. -/
structure Readable (arguments : List String) : Prop where
  /-- No argument is an unknown option. -/
  known : ∀ argument ∈ arguments, isUnknown argument = false
  /-- At most one argument is a path. -/
  single : arguments.countP isPath ≤ 1

/-- Options are what arguments ask for. -/
structure Asks (arguments : List String) (options : Options) : Prop where
  /-- Structured values are written when their switch occurs. -/
  json_iff : options.json = true ↔ "--json" ∈ arguments
  /-- The run stops after lexing when its switch occurs. -/
  tokensOnly_iff : options.tokensOnly = true ↔ "--tokens-only" ∈ arguments
  /-- Help is shown when one of its two switches occurs. -/
  help_iff : options.help = true ↔ "--help" ∈ arguments ∨ "-h" ∈ arguments
  /-- The file is the argument that is a path, if there is one. -/
  file_iff : ∀ path, options.file = some path ↔ path ∈ arguments ∧ isPath path = true

/-- The message about the first argument that cannot be read. -/
inductive Refused (arguments : List String) : String → Prop
  /-- An unknown option comes after arguments that can be read. -/
  | unknown {before after : List String} {argument : String}
      (parts : arguments = before ++ argument :: after) (readable : Readable before)
      (unread : isUnknown argument = true) :
      Refused arguments s!"Unknown option '{argument}'"
  /-- A second path comes after arguments that can be read. -/
  | extra {before after : List String} {argument path : String}
      (parts : arguments = before ++ argument :: after) (readable : Readable before)
      (second : isPath argument = true) (earlier : path ∈ before)
      (first : isPath path = true) :
      Refused arguments s!"Unexpected extra argument '{argument}'"

/-- The form of a long flag is that of two dashes in front. -/
theorem isLongFlag_iff {argument : String} :
    isLongFlag argument = true ↔ "--".toList <+: argument.toList := by
  have dashes : "--".toList = ['-', '-'] := rfl
  rw [isLongFlag, dashes]
  constructor
  · intro flag
    split at flag
    case h_1 rest shape => exact ⟨rest, shape.symm⟩
    case h_2 => contradiction
  · rintro ⟨rest, shape⟩
    rw [← shape]
    rfl

/-- An argument is a switch, an unknown option or a path. -/
theorem switch_or_unknown_or_path (argument : String) :
    (argument ∈ switches ∧ isUnknown argument = false ∧ isPath argument = false) ∨
      (argument ∉ switches ∧ isLongFlag argument = true ∧ isUnknown argument = true) ∨
      (argument ∉ switches ∧ isLongFlag argument = false ∧ isUnknown argument = false ∧
        isPath argument = true) := by
  by_cases switch : argument ∈ switches
  · exact .inl ⟨switch, by simp [isUnknown, switch], by simp [isPath, switch]⟩
  · by_cases dashed : "--".toList <+: argument.toList
    · exact .inr (.inl ⟨switch, isLongFlag_iff.2 dashed, decide_eq_true ⟨dashed, switch⟩⟩)
    · refine .inr (.inr ⟨switch, ?_, ?_, decide_eq_true ⟨dashed, switch⟩⟩)
      · rw [Bool.eq_false_iff, ne_eq, isLongFlag_iff]
        exact dashed
      · exact decide_eq_false fun unknown => dashed unknown.1

/-- An argument that is no path does not change which path there is. -/
theorem mem_concat_and_isPath_iff {before : List String} {argument path : String}
    (other : isPath argument = false) :
    path ∈ before ++ [argument] ∧ isPath path = true ↔ path ∈ before ∧ isPath path = true := by
  constructor
  · rintro ⟨member, found⟩
    rcases List.mem_append.1 member with earlier | last
    · exact ⟨earlier, found⟩
    · obtain rfl := List.mem_singleton.1 last
      rw [other] at found
      contradiction
  · rintro ⟨member, found⟩
    exact ⟨List.mem_append_left _ member, found⟩

/-- A switch turns its option on, and nothing else changes. -/
theorem exists_add_switch {before : List String} {options : Options} (asks : Asks before options)
    {argument : String} (switch : argument ∈ switches) (other : isPath argument = false) :
    ∃ later, add options argument = .ok later ∧ Asks (before ++ [argument]) later := by
  obtain ⟨json, tokensOnly, help, file⟩ := asks
  have files (path : String) :
      options.file = some path ↔ path ∈ before ++ [argument] ∧ isPath path = true := by
    rw [mem_concat_and_isPath_iff other]
    exact file path
  simp only [switches, List.mem_cons, List.not_mem_nil, or_false] at switch
  rcases switch with rfl | rfl | rfl | rfl
  · exact ⟨{ options with json := true }, by simp [add],
      by simp, by simpa using tokensOnly, by simpa using help, files⟩
  · exact ⟨{ options with tokensOnly := true }, by simp [add],
      by simpa using json, by simp, by simpa using help, files⟩
  · exact ⟨{ options with help := true }, by simp [add],
      by simpa using json, by simpa using tokensOnly, by simp, files⟩
  · exact ⟨{ options with help := true }, by simp [add],
      by simpa using json, by simpa using tokensOnly, by simp, files⟩

/-- An argument that is no switch is refused when it begins with two dashes or is a second path, and
is the file otherwise. -/
theorem add_of_notMem_switches (options : Options) {argument : String}
    (plain : argument ∉ switches) :
    add options argument =
      if isLongFlag argument then .error (.unknownOption argument)
      else if options.file.isSome then .error (.extraArgument argument)
      else .ok { options with file := some argument } := by
  simp only [switches, List.mem_cons, List.not_mem_nil, or_false, not_or] at plain
  obtain ⟨json, tokensOnly, help, short⟩ := plain
  rw [add, if_neg json, if_neg tokensOnly, if_neg (not_or.2 ⟨help, short⟩)]

/-- A path becomes the file when there is none yet, and nothing else changes. -/
theorem Asks.add_path {before : List String} {options : Options} (asks : Asks before options)
    {argument : String} (plain : argument ∉ switches) (found : isPath argument = true)
    (unset : options.file = none) :
    Asks (before ++ [argument]) { options with file := some argument } := by
  obtain ⟨json, tokensOnly, help, file⟩ := asks
  have other {switch : String} (known : switch ∈ switches) :
      switch ∈ before ++ [argument] ↔ switch ∈ before := by
    have different : switch ≠ argument := fun same => plain (same ▸ known)
    simp [different]
  refine ⟨?_, ?_, ?_, ?_⟩
  · rw [other (by decide)]
    exact json
  · rw [other (by decide)]
    exact tokensOnly
  · rw [other (by decide), other (by decide)]
    exact help
  · intro path
    constructor
    · intro same
      obtain rfl := Option.some.inj same
      exact ⟨by simp, found⟩
    · rintro ⟨member, isFile⟩
      rcases List.mem_append.1 member with earlier | last
      · have set := (file path).2 ⟨earlier, isFile⟩
        rw [unset] at set
        contradiction
      · rw [List.mem_singleton.1 last]

/-- Arguments that can be read can be read with one more, unless it is unknown or a second path. -/
theorem Readable.concat {before : List String} (readable : Readable before) {argument : String}
    (known : isUnknown argument = false)
    (first : isPath argument = true → ∀ path ∈ before, isPath path = false) :
    Readable (before ++ [argument]) := by
  constructor
  · intro other member
    rcases List.mem_append.1 member with earlier | last
    · exact readable.known other earlier
    · rw [List.mem_singleton.1 last]
      exact known
  · have single := readable.single
    rw [List.countP_append, List.countP_singleton]
    by_cases found : isPath argument = true
    · have none : before.countP isPath = 0 := by
        rw [List.countP_eq_zero]
        intro path member
        rw [first found path member]
        decide
      rw [if_pos found]
      omega
    · rw [if_neg found]
      omega

/-- After arguments that can be read and what they ask for, one more argument is refused with the
message about it, or it can be read as well. -/
theorem add_cases {before : List String} {options : Options} (readable : Readable before)
    (asks : Asks before options) (argument : String) :
    (∃ later, add options argument = .ok later ∧ Readable (before ++ [argument]) ∧
        Asks (before ++ [argument]) later) ∨
      ∃ error, add options argument = .error error ∧
        ∀ after, Refused (before ++ argument :: after) error.message := by
  rcases switch_or_unknown_or_path argument with ⟨switch, known, other⟩ |
    ⟨plain, dashed, unknown⟩ | ⟨plain, undashed, known, found⟩
  · obtain ⟨later, added, asksLater⟩ := exists_add_switch asks switch other
    refine .inl ⟨later, added, readable.concat known ?_, asksLater⟩
    intro found
    rw [other] at found
    contradiction
  · refine .inr ⟨.unknownOption argument, ?_, fun after => .unknown rfl readable unknown⟩
    rw [add_of_notMem_switches options plain, if_pos dashed]
  · have added := add_of_notMem_switches options plain
    rw [undashed, if_neg Bool.false_ne_true] at added
    cases file : options.file with
    | none =>
      rw [file, Option.isSome_none, if_neg Bool.false_ne_true] at added
      refine .inl ⟨_, added, readable.concat known ?_, asks.add_path plain found file⟩
      intro _ path member
      rw [Bool.eq_false_iff]
      intro isFile
      have set := (asks.file_iff path).2 ⟨member, isFile⟩
      rw [file] at set
      contradiction
    | some path =>
      rw [file, Option.isSome_some, if_pos rfl] at added
      obtain ⟨earlier, first⟩ := (asks.file_iff path).1 file
      exact .inr ⟨_, added, fun after => .extra rfl readable found earlier first⟩

/-- No arguments ask for nothing. -/
theorem asks_nil : Asks [] {} where
  json_iff := by simp
  tokensOnly_iff := by simp
  help_iff := by simp
  file_iff := by simp

/-- A message about some arguments is the one about these arguments and more. -/
theorem Refused.append {arguments : List String} {message : String}
    (refused : Refused arguments message) (more : List String) :
    Refused (arguments ++ more) message := by
  cases refused with
  | unknown parts readable unread =>
    rw [parts, List.append_assoc, List.cons_append]
    exact .unknown rfl readable unread
  | extra parts readable second earlier first =>
    rw [parts, List.append_assoc, List.cons_append]
    exact .extra rfl readable second earlier first

/-- Reading one more argument goes on from the options so far. -/
theorem ofArguments_concat (before : List String) (argument : String) :
    ofArguments (before ++ [argument]) =
      (ofArguments before).bind fun options => add options argument := by
  rw [ofArguments, List.foldlM_append, ofArguments]
  congr 1
  funext options
  rw [List.foldlM_cons]
  cases add options argument <;> rfl

/-- Arguments that can be read give what they ask for, and others are refused with the message
about the first that cannot be read. -/
theorem ofArguments_cases (arguments : List String) :
    (∃ options, ofArguments arguments = .ok options ∧ Readable arguments ∧
        Asks arguments options) ∨
      ∃ error, ofArguments arguments = .error error ∧ Refused arguments error.message := by
  induction arguments using List.reverseRecOn with
  | nil =>
    have readable : Readable [] := ⟨by simp, by simp⟩
    exact .inl ⟨{}, rfl, readable, asks_nil⟩
  | append_singleton before argument ih =>
    -- Once an argument is refused the others are not looked at, and its message stays.
    rw [ofArguments_concat]
    rcases ih with ⟨options, read, readable, asks⟩ | ⟨error, refused, reason⟩
    · rw [read]
      rcases add_cases readable asks argument with later | ⟨error, refused, reason⟩
      · exact .inl later
      · exact .inr ⟨error, refused, reason []⟩
    · rw [refused]
      exact .inr ⟨error, rfl, reason.append [argument]⟩

/-- Arguments about which there is a message cannot be read. -/
theorem Refused.not_readable {arguments : List String} {message : String}
    (refused : Refused arguments message) : ¬ Readable arguments := by
  intro readable
  cases refused with
  | @unknown before after argument parts _ unread =>
    have known := readable.known argument (by rw [parts]; simp)
    rw [unread] at known
    contradiction
  | @extra before after argument path parts _ second earlier first =>
    have single := readable.single
    have one : 0 < before.countP isPath := List.countP_pos_iff.2 ⟨path, earlier, first⟩
    rw [parts, List.countP_append, List.countP_cons, if_pos second] at single
    omega

/-- Whether arguments can be read does not depend on their order. -/
theorem Readable.perm {arguments other : List String} (readable : Readable arguments)
    (order : other.Perm arguments) : Readable other := by
  constructor
  · intro argument member
    exact readable.known argument (order.mem_iff.1 member)
  · rw [order.countP_eq]
    exact readable.single

/-- What arguments ask for does not depend on their order. -/
theorem Asks.perm {arguments other : List String} {options : Options}
    (asks : Asks arguments options) (order : other.Perm arguments) : Asks other options := by
  obtain ⟨json, tokensOnly, help, file⟩ := asks
  constructor <;> simpa only [order.mem_iff]

/-- Arguments ask for one thing only. -/
theorem Asks.eq {arguments : List String} {options others : Options}
    (asks : Asks arguments options) (asksOthers : Asks arguments others) : options = others := by
  have json : options.json = others.json := by
    rw [Bool.eq_iff_iff, asks.json_iff, asksOthers.json_iff]
  have tokensOnly : options.tokensOnly = others.tokensOnly := by
    rw [Bool.eq_iff_iff, asks.tokensOnly_iff, asksOthers.tokensOnly_iff]
  have help : options.help = others.help := by
    rw [Bool.eq_iff_iff, asks.help_iff, asksOthers.help_iff]
  have file : options.file = others.file := by
    apply Option.ext
    intro path
    rw [asks.file_iff, asksOthers.file_iff]
  show Options.mk options.file options.json options.tokensOnly options.help = others
  rw [file, json, tokensOnly, help]

/-- Arguments can be read exactly when none is an unknown option and at most one is a path. They
then give the options that they ask for, and so do the same arguments in every other order.
Otherwise the message names the first argument that is an unknown option or a second path, and the
same arguments are refused in every other order as well. -/
theorem ofArguments_independent_of_order (arguments : List String) :
    ((∃ options, ofArguments arguments = .ok options) ↔ Readable arguments) ∧
      (∀ options, ofArguments arguments = .ok options →
        Asks arguments options ∧
          ∀ other, other.Perm arguments → ofArguments other = .ok options) ∧
      ∀ error, ofArguments arguments = .error error →
        Refused arguments error.message ∧
          ∀ other, other.Perm arguments → ∃ reason, ofArguments other = .error reason := by
  rcases ofArguments_cases arguments with ⟨options, read, readable, asks⟩ |
    ⟨error, refused, reason⟩
  · rw [read]
    refine ⟨⟨fun _ => readable, fun _ => ⟨options, rfl⟩⟩, ?_, by simp⟩
    intro same found
    obtain rfl := Except.ok.inj found
    refine ⟨asks, ?_⟩
    intro other order
    rcases ofArguments_cases other with ⟨others, readOther, _, asksOther⟩ | ⟨_, _, reason⟩
    · rw [readOther, asksOther.eq (asks.perm order)]
    · exact absurd (readable.perm order) reason.not_readable
  · have unreadable := reason.not_readable
    rw [refused]
    refine ⟨⟨by simp, fun readable => absurd readable unreadable⟩, by simp, ?_⟩
    intro same found
    obtain rfl := Except.error.inj found
    refine ⟨reason, ?_⟩
    intro other order
    rcases ofArguments_cases other with ⟨_, _, readable, _⟩ | ⟨reasonOther, refusedOther, _⟩
    · exact absurd (readable.perm order.symm) unreadable
    · exact ⟨reasonOther, refusedOther⟩

/-- The empty argument is a path, and so is a single dash, which is refused as the second one. That
comes before the unknown option here; with the unknown option in front the arguments are refused as
well. -/
theorem ofArguments_independent_of_order_empty :
    ofArguments ["", "--json", "-h", "--json"] =
        .ok { file := some "", json := true, help := true } ∧
      ofArguments ["--json", "-h", "", "--json"] =
        .ok { file := some "", json := true, help := true } ∧
      ofArguments ["", "-", "--jsons"] = .error (.extraArgument "-") ∧
      Refused ["", "-", "--jsons"] "Unexpected extra argument '-'" ∧
      ∃ reason, ofArguments ["--jsons", "", "-"] = .error reason := by
  have read : ofArguments ["", "--json", "-h", "--json"] =
      .ok { file := some "", json := true, help := true } := by decide
  have refused : ofArguments ["", "-", "--jsons"] = .error (.extraArgument "-") := by decide
  have order : ["--json", "-h", "", "--json"].Perm ["", "--json", "-h", "--json"] := by decide
  have turned : ["--jsons", "", "-"].Perm ["", "-", "--jsons"] := by decide
  obtain ⟨-, same, -⟩ := ofArguments_independent_of_order ["", "--json", "-h", "--json"]
  obtain ⟨-, -, reason⟩ := ofArguments_independent_of_order ["", "-", "--jsons"]
  obtain ⟨message, others⟩ := reason _ refused
  exact ⟨read, (same _ read).2 _ order, refused, message, others _ turned⟩

end LexisFront.Options
