import LexisFront.Proofs.Lexing.Correspondence
import LexisFront.Proofs.Source.Lines

/-!
# Sources joined at a delimiter

A delimiter ends a fragment, whatever stands around it. The fragments of two sources with a
delimiter between them are therefore those of the first and then those of the second, the latter
with their numbers and places moved on. Lexing the two together reads the first source as if it
stood alone: its error is the error of the whole, and its tokens come first. After them stands what
lexing the second source gives, moved on by the first source and the delimiter.
-/

namespace LexisFront

/-- A place of a source, and where that place comes to stand when a text is put before the source:
both are reached by moving past the same beginning of the source. -/
def Position.MovesTo (added source : List Char) (place moved : Position) : Prop :=
  ∃ beginning, beginning <+: source ∧ start.advanceAll? beginning = some place ∧
    start.advanceAll? (added ++ beginning) = some moved

/-- The pieces of two texts with a delimiter between them are the pieces of the first, of which the
last one has got that delimiter, and the pieces of the second. -/
theorem Text.IsCut.exists_append {isDelimiter : Char → Bool} {left right : List Char}
    {pieces others : List Piece} (isCut : IsCut isDelimiter left pieces) {c : Char}
    (delimits : isDelimiter c = true) (after : IsCut isDelimiter right others) :
    ∃ all, IsCut isDelimiter (left ++ c :: right) all ∧ ∀ index before,
      Fragment.ofPieces index before all = Fragment.ofPieces index before pieces ++
        Fragment.ofPieces (index + pieces.length) (before ++ (left ++ [c])) others := by
  -- Only the last piece of the first text changes, and its fragment does not.
  induction isCut with
  | @last text free => exact ⟨⟨text, some c⟩ :: others, .more free delimits after, fun _ _ => rfl⟩
  | @more text rest d pieces free earlier later ih =>
    obtain ⟨all, isCut, fragments⟩ := ih
    refine ⟨⟨text, some d⟩ :: all, ?_, fun index before => ?_⟩
    · rw [List.append_assoc, List.cons_append]
      exact .more free earlier isCut
    · have passed : before ++ (⟨text, some d⟩ : Piece).characters ++ (rest ++ [c]) =
          before ++ (text ++ d :: rest ++ [c]) := by
        simp [Piece.characters]
      have number : index + 1 + pieces.length = index + (pieces.length + 1) := by omega
      rw [Fragment.ofPieces, fragments, passed, number]
      rfl

namespace Fragment

/-- A fragment after a text was put before its source, with a number that counts the fragments of
that text. -/
def movedBy (fragment : Fragment) (distance : Nat) (added : List Char) : Fragment :=
  ⟨fragment.index + distance, added ++ fragment.before, fragment.text⟩

/-- Putting a text before pieces moves their fragments. -/
theorem ofPieces_movedBy (distance : Nat) (added : List Char) (index : Nat) (before : List Char)
    (pieces : List Text.Piece) :
    ofPieces (index + distance) (added ++ before) pieces =
      (ofPieces index before pieces).map (·.movedBy distance added) := by
  induction pieces generalizing index before with
  | nil => rfl
  | cons piece pieces ih =>
    have next : index + distance + 1 = index + 1 + distance := by omega
    rw [ofPieces, ofPieces, List.map_cons, next, List.append_assoc, ih]
    rfl

/-- The fragments of two sources with a delimiter between them are those of the first, then those
of the second after they were moved. -/
theorem ofSource_append {isDelimiter : Char → Bool} {c : Char} (delimits : isDelimiter c = true)
    (left right : List Char) :
    ofSource isDelimiter (left ++ c :: right) = ofSource isDelimiter left ++
      (ofSource isDelimiter right).map
        (·.movedBy (left.splitOnP isDelimiter).length (left ++ [c])) := by
  have first := Text.isCut_cut isDelimiter left
  have second := Text.isCut_cut isDelimiter right
  obtain ⟨all, isCut, fragments⟩ := first.exists_append delimits second
  have count : (Text.cut isDelimiter left).length = (left.splitOnP isDelimiter).length := by
    rw [← first.map_text, List.length_map]
  have moved := ofPieces_movedBy (Text.cut isDelimiter left).length (left ++ [c]) 0 []
    (Text.cut isDelimiter right)
  rw [List.append_nil] at moved
  rw [← ofPieces_eq_ofSource isCut, fragments, List.nil_append, moved, ofPieces_cut, ofPieces_cut,
    count]

/-- The visible fragments of two sources with a delimiter between them are those of the first, then
those of the second after they were moved. -/
theorem visible_append {settings : LexicalSettings} {c : Char}
    (delimits : settings.isDelimiter c = true) (left right : List Char) :
    visible settings (left ++ c :: right) = visible settings left ++
      (visible settings right).map
        (·.movedBy (left.splitOnP settings.isDelimiter).length (left ++ [c])) := by
  rw [visible, ofSource_append delimits, List.filter_append, List.filter_map]
  rfl

/-- A fragment of a source corresponds to itself after it was moved. -/
theorem corresponds_movedBy {isDelimiter : Char → Bool} {source added : List Char}
    (short : (added ++ source).length ≤ UInt32.size - 2) {fragment : Fragment}
    (member : fragment ∈ ofSource isDelimiter source) (distance : Nat) :
    fragment.Corresponds (Position.MovesTo added source) distance
      (fragment.movedBy distance added) := by
  obtain ⟨after, placed⟩ := exists_after_of_mem member
  refine ⟨rfl, rfl, fun value rest opens => ?_⟩
  have beginning : fragment.before ++ value <+: source :=
    ⟨rest ++ after, by rw [placed, opens]; simp⟩
  have moved : added ++ (fragment.before ++ value) <+: added ++ source :=
    (List.prefix_append_right_inj added).2 beginning
  have inside := moved.length_le.trans short
  have alone : (fragment.before ++ value).length ≤ UInt32.size - 2 := by
    rw [List.length_append] at inside
    omega
  have same : (fragment.movedBy distance added).before ++ value =
      added ++ (fragment.before ++ value) := List.append_assoc _ _ _
  rw [same]
  exact ⟨fragment.before ++ value, beginning, Position.advanceAll?_start alone,
    Position.advanceAll?_start inside⟩

end Fragment

namespace Lexing

variable {settings : LexicalSettings}

/-- An error of the first fragments is the error of all. -/
theorem collect_append_of_error {stop : Position} {limit : Nat} {visible : List Fragment}
    {error : LexicalError} (failed : collect settings stop limit visible = .error error)
    (last : Position) (rest : List Fragment) :
    collect settings last limit (visible ++ rest) = .error error := by
  induction visible generalizing limit with
  | nil =>
    rw [collect_nil] at failed
    contradiction
  | cons fragment visible ih =>
    rw [List.cons_append]
    cases limit with
    | zero =>
      rw [collect_zero] at failed ⊢
      exact failed
    | succ limit =>
      cases judged : fragment.judge settings with
      | error other =>
        rw [collect_of_judge_error judged] at failed ⊢
        exact failed
      | ok token =>
        rw [collect_of_judge_ok judged] at failed ⊢
        cases collected : collect settings stop limit visible with
        | ok tokens =>
          rw [collected] at failed
          contradiction
        | error other =>
          rw [collected] at failed
          obtain rfl : other = error := Except.error.inj failed
          rw [ih collected]
          rfl

/-- The tokens of the first fragments come before what the others give. -/
theorem collect_append_of_ok {visible : List Fragment} {body : List Token}
    (all : visible.map (Fragment.judge settings) = body.map .ok) (last : Position) (limit : Nat)
    (rest : List Fragment) :
    collect settings last (visible.length + limit) (visible ++ rest) =
      (collect settings last limit rest).map (body ++ ·) := by
  induction visible generalizing body with
  | nil =>
    obtain rfl : body = [] := by simpa using all.symm
    rw [List.length_nil, Nat.zero_add, List.nil_append]
    cases collect settings last limit rest <;> rfl
  | cons fragment visible ih =>
    cases body with
    | nil => simp at all
    | cons token body =>
      rw [List.map_cons, List.map_cons, List.cons.injEq] at all
      have room : (fragment :: visible).length + limit = visible.length + limit + 1 := by
        rw [List.length_cons]
        omega
      rw [room, List.cons_append, collect_of_judge_ok all.1, ih all.2]
      cases collect settings last limit rest <;> rfl

/-- A limit that the fragments do not reach does not matter. -/
theorem collect_eq_of_fits {stop : Position} {limit other : Nat} {visible : List Fragment}
    (fits : visible.length ≤ limit) (alsoFits : visible.length ≤ other) :
    collect settings stop limit visible = collect settings stop other visible := by
  simp only [collect, List.take_of_length_le fits, List.take_of_length_le alsoFits, if_pos fits,
    if_pos alsoFits]

/-- Only tokens are listed as tokens. -/
theorem exists_map_toList_eq_ok_iff {result : Except LexicalError TokenSequence} :
    (∃ tokens, result.map TokenSequence.toList = .ok tokens) ↔ ∃ tokens, result = .ok tokens := by
  cases result <;> simp [Except.map]

/-- Only an error is listed as that error. -/
theorem map_toList_eq_error_iff {result : Except LexicalError TokenSequence}
    {error : LexicalError} :
    result.map TokenSequence.toList = .error error ↔ result = .error error := by
  cases result <;> simp [Except.map]

/-- Adding tokens in front keeps what corresponds a success or an error. -/
theorem Corresponds.exists_ok_iff {places : Position → Position → Prop} {distance : Nat}
    {result moved : Except LexicalError (List Token)}
    (same : Corresponds places distance result moved) (body : List Token) :
    (∃ tokens, moved.map (body ++ ·) = .ok tokens) ↔ ∃ tokens, result = .ok tokens := by
  cases same with
  | ok each => exact ⟨fun _ => ⟨_, rfl⟩, fun _ => ⟨_, rfl⟩⟩
  | error alike => simp [Except.map]

/-- What the rule gives for two sources with a delimiter between them, of which the first one is
lexed to tokens and which together have few enough visible fragments: those tokens, and then what
the rule gives for the second source after it was moved. -/
theorem exists_expected_append {c : Char} (delimits : settings.isDelimiter c = true)
    {left right : List Char} (short : (left ++ c :: right).length ≤ UInt32.size - 2)
    {tokens : TokenSequence} (found : expected settings left = .ok tokens.toList)
    (few : (Fragment.visible settings left).length + (Fragment.visible settings right).length <
      Limits.maxTokenCount) :
    ∃ moved, Corresponds (Position.MovesTo (left ++ [c]) right)
        (left.splitOnP settings.isDelimiter).length (expected settings right) moved ∧
      expected settings (left ++ c :: right) = moved.map (tokens.body ++ ·) := by
  let distance := (left.splitOnP settings.isDelimiter).length
  let others := (Fragment.visible settings right).map (·.movedBy distance (left ++ [c]))
  let last := Position.start.afterAll (left ++ c :: right)
  have whole : left ++ c :: right = left ++ [c] ++ right := by simp
  rw [whole] at short
  have within : right.length ≤ UInt32.size - 2 := by
    rw [List.length_append] at short
    omega
  have ends : Position.MovesTo (left ++ [c]) right (Position.start.afterAll right) last := by
    refine ⟨right, List.prefix_rfl, Position.advanceAll?_start within, ?_⟩
    rw [Position.advanceAll?_start short, ← whole]
  have each : List.Forall₂
      (Fragment.Corresponds (Position.MovesTo (left ++ [c]) right) distance)
      (Fragment.visible settings right) others := by
    rw [List.forall₂_map_right_iff, List.forall₂_same]
    intro fragment member
    exact Fragment.corresponds_movedBy short (List.mem_filter.1 member).1 distance
  have count : others.length = (Fragment.visible settings right).length := List.length_map _
  have fits : others.length ≤ Limits.maxTokenCount - 1 := by omega
  have fitsAfter : others.length ≤
      Limits.maxTokenCount - 1 - (Fragment.visible settings left).length := by omega
  have room : Limits.maxTokenCount - 1 = (Fragment.visible settings left).length +
      (Limits.maxTokenCount - 1 - (Fragment.visible settings left).length) := by omega
  have joined : expected settings (left ++ c :: right) =
      (collect settings last (Limits.maxTokenCount - 1) others).map (tokens.body ++ ·) := by
    rw [expected, Fragment.visible_append delimits, room,
      collect_append_of_ok (map_judge_of_expected_ok found).1, ← room,
      collect_eq_of_fits fitsAfter fits]
  exact ⟨_, collect_corresponds rfl ends each (Limits.maxTokenCount - 1), joined⟩

/-- Lexing is compositional at a delimiter. When the first of two sources is an error, the two with
a delimiter between them are the same error. When it is lexed to tokens, and the two have too few
visible fragments to reach the limit, the two are lexed to tokens exactly when the second one is:
to those of the first without its terminator, then those of the second, moved to where they stand
in the whole. Otherwise they are the error of the second, with its place moved and its number
counted on from the fragments of the first. -/
theorem ofSource?_joined (settings : LexicalSettings) (left right : String) (c : Char)
    (delimits : settings.isDelimiter c = true)
    (short : (left.push c ++ right).length ≤ UInt32.size - 2) :
    ∃ first second whole, ofSource? settings left = some first ∧
      ofSource? settings right = some second ∧
      ofSource? settings (left.push c ++ right) = some whole ∧
      (∀ error, first.result = .error error → whole.result = .error error) ∧
      ∀ tokens, first.result = .ok tokens →
        (Fragment.visible settings left.toList).length +
          (Fragment.visible settings right.toList).length < Limits.maxTokenCount →
        ((∃ all, whole.result = .ok all) ↔ ∃ later, second.result = .ok later) ∧
          ∃ moved, Corresponds (Position.MovesTo (left.toList ++ [c]) right.toList)
              (left.toList.splitOnP settings.isDelimiter).length
              (second.result.map TokenSequence.toList) moved ∧
            whole.result.map TokenSequence.toList = moved.map (tokens.body ++ ·) := by
  have text : (left.push c ++ right).toList = left.toList ++ c :: right.toList := by
    rw [String.toList_append, String.toList_push, List.append_assoc, List.singleton_append]
  have shortText : (left.toList ++ c :: right.toList).length ≤ UInt32.size - 2 := by
    rw [← text, String.length_toList]
    exact short
  have shortLeft : left.length ≤ UInt32.size - 2 := by
    rw [List.length_append, String.length_toList] at shortText
    omega
  have shortRight : right.length ≤ UInt32.size - 2 := by
    rw [List.length_append, List.length_cons, String.length_toList, String.length_toList]
      at shortText
    omega
  obtain ⟨first, lexed, found⟩ := exists_result_eq settings shortLeft
  obtain ⟨second, relexed, refound⟩ := exists_result_eq settings shortRight
  obtain ⟨whole, lexedWhole, foundWhole⟩ := exists_result_eq settings short
  rw [text] at foundWhole
  refine ⟨first, second, whole, lexed, relexed, lexedWhole, ?_, ?_⟩
  · intro error failed
    rw [failed] at found
    have failedWhole : expected settings (left.toList ++ c :: right.toList) = .error error := by
      rw [expected, Fragment.visible_append delimits]
      exact collect_append_of_error found.symm _ _
    exact map_toList_eq_error_iff.1 (foundWhole.trans failedWhole)
  · intro tokens succeeded few
    rw [succeeded] at found
    obtain ⟨moved, same, joined⟩ := exists_expected_append delimits shortText found.symm few
    rw [← refound] at same
    rw [joined] at foundWhole
    refine ⟨?_, moved, same, foundWhole⟩
    rw [← exists_map_toList_eq_ok_iff, foundWhole, same.exists_ok_iff, exists_map_toList_eq_ok_iff]

/-- The first source is one fragment over two lines that loses two characters. In the whole, the
fragment that is no token stands on the second line, and the fragment of the first source counts
towards its number. -/
theorem ofSource?_joined_two_lines :
    (⟨false, true, true, false⟩ : LexicalSettings).isDelimiter ' ' = true ∧
      ("+\né".push ' ' ++ "b 3.1").length ≤ UInt32.size - 2 ∧
      ∃ second whole moved, ofSource? ⟨false, true, true, false⟩ "b 3.1" = some second ∧
        ofSource? ⟨false, true, true, false⟩ ("+\né".push ' ' ++ "b 3.1") = some whole ∧
        Corresponds (Position.MovesTo "+\né ".toList "b 3.1".toList) 1
          (second.result.map TokenSequence.toList) moved ∧
        second.result.map TokenSequence.toList =
          .error (.unrecognizedToken "3.1" 1 ⟨⟨2, 1, 3⟩, ⟨5, 1, 6⟩⟩) ∧
        moved = .error (.unrecognizedToken "3.1" 2 ⟨⟨7, 2, 5⟩, ⟨10, 2, 8⟩⟩) := by
  refine ⟨rfl, by decide, ?_⟩
  obtain ⟨first, second, whole, lexed, relexed, lexedWhole, -, joined⟩ :=
    ofSource?_joined ⟨false, true, true, false⟩ "+\né" "b 3.1" ' ' rfl (by decide)
  have found : expected ⟨false, true, true, false⟩ "+\né".toList =
      .ok [⟨.plus, "+", ⟨⟨0, 1, 1⟩, ⟨1, 1, 2⟩⟩⟩, ⟨.eof, "EOF", ⟨⟨4, 2, 2⟩, ⟨4, 2, 2⟩⟩⟩] := rfl
  obtain ⟨tokens, succeeded⟩ := exists_map_toList_eq_ok_iff.1 ⟨_, (result_eq lexed).trans found⟩
  obtain ⟨-, moved, same, sum⟩ := joined tokens succeeded (by decide)
  have foundWhole : expected ⟨false, true, true, false⟩ ("+\né".push ' ' ++ "b 3.1").toList =
      .error (.unrecognizedToken "3.1" 2 ⟨⟨7, 2, 5⟩, ⟨10, 2, 8⟩⟩) := rfl
  rw [result_eq lexedWhole, foundWhole] at sum
  refine ⟨second, whole, moved, relexed, lexedWhole, same, result_eq relexed, ?_⟩
  cases moved with
  | ok all => contradiction
  | error error => exact sum.symm

end Lexing

end LexisFront
