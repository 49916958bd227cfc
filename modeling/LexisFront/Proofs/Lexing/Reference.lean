import LexisFront.Proofs.Lexing.Run

/-!
# What lexing gives

`Lexing.expected` is lexing as one rule. The fragments of a source that are not blank are judged
one by one; as many of them as fit before the terminator are looked at, the first error among
these is the error of the source, and a fragment too many is an error of its own. The main
statement is that the lexer gives exactly this for every source of at most `2 ^ 32 - 2`
characters, with every place, number and text.

The rule is stated with the number of tokens that still fit, so that a run can be followed from
the middle.
-/

namespace LexisFront

/-- The fragments of a source that are not blank. -/
def Fragment.visible (settings : LexicalSettings) (source : List Char) : List Fragment :=
  (ofSource settings.isDelimiter source).filter fun fragment => !Text.isBlank fragment.text

namespace Lexing

/-- The tokens of visible fragments, of which at most `limit` may be taken, and the terminator at
the last place. -/
def collect (settings : LexicalSettings) (stop : Position) (limit : Nat)
    (visible : List Fragment) : Except LexicalError (List Token) := do
  let tokens ← (visible.take limit).mapM (Fragment.judge settings)
  if visible.length ≤ limit then
    .ok (tokens ++ [Token.eof (.emptyAt stop)])
  else
    .error (.tooManyTokens (Limits.maxTokenCount + 1))

/-- What lexing a source gives: its tokens with the terminator last, or its error. -/
def expected (settings : LexicalSettings) (source : List Char) :
    Except LexicalError (List Token) :=
  collect settings (Position.start.afterAll source) (Limits.maxTokenCount - 1)
    (Fragment.visible settings source)

variable {settings : LexicalSettings} {stop : Position}

/-- No visible fragments give the terminator alone. -/
@[simp]
theorem collect_nil (limit : Nat) :
    collect settings stop limit [] = .ok [Token.eof (.emptyAt stop)] := by
  simp [collect, pure, Except.pure, bind, Except.bind]

/-- A visible fragment for which there is no room is an error, whatever it is. -/
@[simp]
theorem collect_zero (fragment : Fragment) (rest : List Fragment) :
    collect settings stop 0 (fragment :: rest) =
      .error (.tooManyTokens (Limits.maxTokenCount + 1)) := by
  simp [collect, pure, Except.pure, bind, Except.bind]

/-- The first visible fragment decides when it is no token. -/
theorem collect_of_judge_error {fragment : Fragment} {error : LexicalError}
    (judged : fragment.judge settings = .error error) (limit : Nat) (rest : List Fragment) :
    collect settings stop (limit + 1) (fragment :: rest) = .error error := by
  simp [collect, judged, bind, Except.bind]

/-- The first visible fragment gives the first token when it is one. -/
theorem collect_of_judge_ok {fragment : Fragment} {token : Token}
    (judged : fragment.judge settings = .ok token) (limit : Nat) (rest : List Fragment) :
    collect settings stop (limit + 1) (fragment :: rest) =
      (collect settings stop limit rest).map (token :: ·) := by
  simp only [collect, List.take_succ_cons, List.mapM_cons, judged, bind, Except.bind, pure,
    Except.pure, List.length_cons, Nat.add_le_add_iff_right]
  cases (rest.take limit).mapM (Fragment.judge settings) with
  | error error => rfl
  | ok tokens =>
    by_cases fits : rest.length ≤ limit
    · simp only [if_pos fits, Except.map, List.cons_append]
    · simp only [if_neg fits, Except.map]

/-- Only the judgements of the visible fragments matter. -/
theorem collect_congr {others : LexicalSettings} {visible moved : List Fragment}
    (judged : visible.map (Fragment.judge settings) = moved.map (Fragment.judge others))
    (limit : Nat) : collect settings stop limit visible = collect others stop limit moved := by
  have lengths : visible.length = moved.length := by
    simpa using congrArg List.length judged
  have taken (settings : LexicalSettings) (visible : List Fragment) :
      (visible.take limit).mapM (Fragment.judge settings) =
        ((visible.map (Fragment.judge settings)).take limit).mapM id := by
    rw [← List.map_take, List.mapM_map]
    rfl
  rw [collect, collect, taken settings, taken others, judged, lengths]

/-- Either every visible fragment is a token and all of them fit, or a first one is an error or
one too many. -/
theorem collect_cases (settings : LexicalSettings) (stop : Position) (limit : Nat)
    (visible : List Fragment) :
    (∃ body, collect settings stop limit visible = .ok (body ++ [Token.eof (.emptyAt stop)]) ∧
        visible.map (Fragment.judge settings) = body.map .ok ∧ visible.length ≤ limit) ∨
      ∃ good fragment rest error, collect settings stop limit visible = .error error ∧
        visible = good ++ fragment :: rest ∧
        (∀ earlier ∈ good, ∃ token, earlier.judge settings = .ok token) ∧
        (good.length = limit ∧ error = .tooManyTokens (Limits.maxTokenCount + 1) ∨
          good.length < limit ∧ fragment.judge settings = .error error) := by
  induction visible generalizing limit with
  | nil => exact .inl ⟨[], by simp, rfl, Nat.zero_le limit⟩
  | cons fragment rest ih =>
    cases limit with
    | zero => exact .inr ⟨[], fragment, rest, _, collect_zero fragment rest, rfl, by simp, by simp⟩
    | succ limit =>
      cases judged : fragment.judge settings with
      | error error =>
        exact .inr ⟨[], fragment, rest, error, collect_of_judge_error judged limit rest, rfl,
          by simp, .inr ⟨Nat.succ_pos limit, judged⟩⟩
      | ok token =>
        rw [collect_of_judge_ok judged]
        rcases ih limit with ⟨body, collected, all, fits⟩ |
          ⟨good, bad, later, error, collected, rfl, earlier, reason⟩
        · refine .inl ⟨token :: body, ?_, ?_, Nat.succ_le_succ fits⟩
          · rw [collected]
            rfl
          · rw [List.map_cons, judged, all, List.map_cons]
        · refine .inr ⟨fragment :: good, bad, later, error, ?_, rfl, ?_, ?_⟩
          · rw [collected]
            rfl
          · intro other member
            rcases List.mem_cons.1 member with rfl | member
            · exact ⟨token, judged⟩
            · exact earlier other member
          · simpa using reason

/-- There are tokens exactly when every visible fragment is one and all of them fit. -/
theorem exists_collect_eq_ok_iff {limit : Nat} {visible : List Fragment} :
    (∃ tokens, collect settings stop limit visible = .ok tokens) ↔
      (∀ fragment ∈ visible, ∃ token, fragment.judge settings = .ok token) ∧
        visible.length ≤ limit := by
  rcases collect_cases settings stop limit visible with ⟨body, collected, all, fits⟩ |
    ⟨good, bad, rest, error, collected, rfl, -, reason⟩
  · refine ⟨fun _ => ⟨fun fragment member => ?_, fits⟩, fun _ => ⟨_, collected⟩⟩
    have judged : fragment.judge settings ∈ body.map .ok := all ▸ List.mem_map_of_mem member
    obtain ⟨token, -, same⟩ := List.mem_map.1 judged
    exact ⟨token, same.symm⟩
  · constructor
    · rintro ⟨tokens, found⟩
      rw [collected] at found
      contradiction
    · rintro ⟨all, fits⟩
      rcases reason with ⟨full, -⟩ | ⟨-, refused⟩
      · simp only [List.length_append, List.length_cons] at fits
        omega
      · obtain ⟨token, judged⟩ := all bad (by simp)
        rw [refused] at judged
        contradiction

end Lexing

/-- A run gives what its visible fragments give after the tokens that it already has. -/
theorem Lexer.Runs.result_eq {settings : LexicalSettings} {stop : Position} {lexer : Lexer}
    {fragments : List Fragment} {lexing : Lexing} (runs : Runs settings stop lexer fragments lexing)
    (fits : lexer.run.size ≤ Limits.maxTokenCount - 1) :
    lexing.result.map TokenSequence.toList =
      (Lexing.collect settings stop (Limits.maxTokenCount - 1 - lexer.run.size)
        (fragments.filter fun fragment => !Text.isBlank fragment.text)).map
          (lexer.run.tokens.toList ++ ·) := by
  induction runs with
  | finish =>
    rw [List.filter_nil, Lexing.collect_nil]
    rfl
  | @skip lexer cursor fragment rest lexing blank later ih =>
    rw [List.filter_cons_of_neg (by simp [blank])]
    exact ih fits
  | @full lexer fragment rest visible many =>
    have none : Limits.maxTokenCount - 1 - lexer.run.size = 0 := by omega
    have count : lexer.run.size + 2 = Limits.maxTokenCount + 1 := by
      have positive : 0 < Limits.maxTokenCount := by decide
      omega
    rw [List.filter_cons_of_pos (by simp [visible]), none, Lexing.collect_zero, count]
    rfl
  | @refuse lexer fragment rest error visible few judged =>
    have room : Limits.maxTokenCount - 1 - lexer.run.size =
        Limits.maxTokenCount - 2 - lexer.run.size + 1 := by omega
    rw [List.filter_cons_of_pos (by simp [visible]), room, Lexing.collect_of_judge_error judged]
    rfl
  | @accept lexer cursor run fragment rest token lexing visible few judged pushed later ih =>
    have size : run.size = lexer.run.size + 1 := by
      simp [TokenRun.size, pushed]
    have room : Limits.maxTokenCount - 1 - lexer.run.size =
        Limits.maxTokenCount - 1 - run.size + 1 := by omega
    have found := ih (by rw [size]; omega)
    rw [List.filter_cons_of_pos (by simp [visible]), room, Lexing.collect_of_judge_ok judged,
      found]
    cases Lexing.collect settings stop (Limits.maxTokenCount - 1 - run.size)
        (rest.filter fun fragment => !Text.isBlank fragment.text) with
    | error error => rfl
    | ok tokens => simp [Except.map, pushed]

/-- A token sequence has exactly one terminator. -/
theorem TokenSequence.countP_isEof_toList (sequence : TokenSequence) :
    sequence.toList.countP Token.isEof = 1 := by
  have body : sequence.body.countP Token.isEof = 0 := by
    rw [List.countP_eq_zero]
    intro token member
    simp [isEof_of_mem_body member]
  rw [toList, List.countP_append, body]
  rfl

namespace Lexing

/-- Whatever lexing a source comes to is what the rule says. -/
theorem result_eq {settings : LexicalSettings} {source : String} {lexing : Lexing}
    (lexed : ofSource? settings source = some lexing) :
    lexing.result.map TokenSequence.toList = expected settings source.toList := by
  obtain ⟨outcome, runs, rfl⟩ := runs_of_ofSource? lexed
  have found := runs.result_eq (Nat.zero_le _)
  change outcome.result.map TokenSequence.toList = _
  rw [found]
  change (expected settings source.toList).map ([] ++ ·) = _
  cases expected settings source.toList <;> rfl

/-- Lexing a source of bounded length gives what the rule says. -/
theorem exists_result_eq (settings : LexicalSettings) {source : String}
    (short : source.length ≤ UInt32.size - 2) :
    ∃ lexing, ofSource? settings source = some lexing ∧
      lexing.result.map TokenSequence.toList = expected settings source.toList := by
  obtain ⟨lexing, lexed⟩ := exists_ofSource?_eq settings short
  exact ⟨lexing, lexed, result_eq lexed⟩

/-- The tokens that the rule gives are those of the visible fragments, and the terminator stands
at the end of the source. -/
theorem map_judge_of_expected_ok {settings : LexicalSettings} {source : List Char}
    {tokens : TokenSequence} (found : expected settings source = .ok tokens.toList) :
    (Fragment.visible settings source).map (Fragment.judge settings) = tokens.body.map .ok ∧
      tokens.last = Token.eof (.emptyAt (Position.start.afterAll source)) := by
  rcases collect_cases settings (Position.start.afterAll source) (Limits.maxTokenCount - 1)
      (Fragment.visible settings source) with ⟨body, collected, all, -⟩ |
    ⟨good, bad, rest, error, collected, -, -, -⟩
  · have same : body ++ [Token.eof (.emptyAt (Position.start.afterAll source))] =
        tokens.body ++ [tokens.last] := Except.ok.inj (collected.symm.trans found)
    obtain ⟨bodies, lasts⟩ := List.append_inj' same rfl
    exact ⟨bodies ▸ all, (List.cons.inj lasts).1.symm⟩
  · have impossible := collected.symm.trans found
    contradiction

/-- A token before the terminator is that of a visible fragment. -/
theorem exists_judge_of_mem_body {settings : LexicalSettings} {source : List Char}
    {tokens : TokenSequence} (found : expected settings source = .ok tokens.toList)
    {token : Token} (member : token ∈ tokens.body) :
    ∃ fragment ∈ Fragment.visible settings source, fragment.judge settings = .ok token := by
  have judged : .ok token ∈ (Fragment.visible settings source).map (Fragment.judge settings) :=
    (map_judge_of_expected_ok found).1 ▸ List.mem_map_of_mem member
  exact List.mem_map.1 judged

/-- The error that the rule gives is that of a visible fragment, or that of one too many. -/
theorem exists_judge_of_expected_error {settings : LexicalSettings} {source : List Char}
    {error : LexicalError} (found : expected settings source = .error error) :
    (∃ fragment ∈ Fragment.visible settings source, fragment.judge settings = .error error) ∨
      error = .tooManyTokens (Limits.maxTokenCount + 1) := by
  rcases collect_cases settings (Position.start.afterAll source) (Limits.maxTokenCount - 1)
      (Fragment.visible settings source) with ⟨body, collected, -, -⟩ |
    ⟨good, bad, rest, other, collected, split, -, reason⟩
  · have impossible := collected.symm.trans found
    contradiction
  · obtain rfl : other = error := Except.error.inj (collected.symm.trans found)
    rcases reason with ⟨-, many⟩ | ⟨-, refused⟩
    · exact .inr many
    · exact .inl ⟨bad, by simp [split], refused⟩

/-- A source of at most `2 ^ 32 - 2` characters is lexed to exactly what its fragments give: the
tokens of the visible ones and one terminator, or the error of the first that is no token or is
one too many. There are tokens exactly when each visible fragment is one and there is room for
all of them before the terminator. -/
theorem ofSource?_eq_expected (settings : LexicalSettings) (source : String)
    (short : source.length ≤ UInt32.size - 2) :
    ∃ lexing, ofSource? settings source = some lexing ∧
      lexing.result.map TokenSequence.toList = expected settings source.toList ∧
      ((∃ tokens, lexing.result = .ok tokens) ↔
        (∀ fragment ∈ Fragment.visible settings source.toList,
          ∃ token, fragment.judge settings = .ok token) ∧
        (Fragment.visible settings source.toList).length ≤ Limits.maxTokenCount - 1) ∧
      ∀ tokens, lexing.result = .ok tokens → tokens.toList.countP Token.isEof = 1 := by
  obtain ⟨lexing, lexed, found⟩ := exists_result_eq settings short
  refine ⟨lexing, lexed, found, ?_, fun tokens _ => tokens.countP_isEof_toList⟩
  have mapped : (∃ tokens, lexing.result = .ok tokens) ↔
      ∃ tokens, lexing.result.map TokenSequence.toList = .ok tokens := by
    cases lexing.result <;> simp [Except.map]
  rw [mapped, found]
  exact exists_collect_eq_ok_iff

/-- Of the four fragments of this source one is blank, one loses a letter, and the last one is
the error. -/
theorem ofSource?_eq_expected_decimal :
    "a  +b 3.1".length ≤ UInt32.size - 2 ∧
      ∃ lexing, ofSource? ⟨false, true, true, false⟩ "a  +b 3.1" = some lexing ∧
        lexing.result.map TokenSequence.toList =
          .error (.unrecognizedToken "3.1" 3 ⟨⟨6, 1, 7⟩, ⟨9, 1, 10⟩⟩) := by
  refine ⟨by decide, ?_⟩
  obtain ⟨lexing, lexed, found, -, -⟩ :=
    ofSource?_eq_expected ⟨false, true, true, false⟩ "a  +b 3.1" (by decide)
  refine ⟨lexing, lexed, ?_⟩
  rw [found]
  rfl

end Lexing

end LexisFront
