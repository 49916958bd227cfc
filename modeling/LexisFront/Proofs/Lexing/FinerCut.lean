import LexisFront.Proofs.Lexing.Concatenation
import LexisFront.Proofs.Lexing.Places
import LexisFront.Proofs.Lexing.Strictness
import LexisFront.Proofs.Lexing.Words

/-!
# More delimiters

Letting line ends delimit cuts a source into more pieces. Where every visible fragment of the
coarser cut has no line end inside, the finer cut only divides blank fragments, and the parts of
these are blank again. So the visible fragments are the same stretches at the same places; only
their numbers differ, and no token holds the number of its fragment.

A run that truncates no operator accepts only words, and no word has a delimiter of any setting
inside. Such a run is therefore repeated, token by token, when line ends delimit as well.
-/

namespace LexisFront

namespace Fragment

/-- The stretch of a source that a fragment is, without its number. -/
def stretch (fragment : Fragment) : List Char × List Char :=
  (fragment.before, fragment.text)

/-- A source that is blank has no visible fragments. -/
theorem visible_eq_nil_of_isBlank (settings : LexicalSettings) {source : List Char}
    (blank : Text.isBlank source = true) : visible settings source = [] := by
  rw [visible, List.filter_eq_nil_iff]
  intro fragment member
  obtain ⟨after, split⟩ := exists_after_of_mem member
  have inside : Text.isBlank fragment.text = true := by
    rw [Text.isBlank, split, List.all_append, List.all_append] at blank
    simp only [Bool.and_eq_true] at blank
    exact blank.1.2
  simp [inside]

/-- A source that is not blank and has no delimiters is one visible fragment. -/
theorem visible_eq_singleton {settings : LexicalSettings} {source : List Char}
    (free : ∀ c ∈ source, settings.isDelimiter c = false)
    (shown : Text.isBlank source = false) : visible settings source = [⟨0, [], source⟩] := by
  rw [visible, ofSource, List.splitOnP_eq_singleton free]
  simp [number, shown]

/-- Fragments that are the same stretches still are after they were moved, whatever their
numbers. -/
theorem map_stretch_movedBy {fragments others : List Fragment}
    (same : fragments.map stretch = others.map stretch) (distance other : Nat)
    (added : List Char) :
    (fragments.map (·.movedBy distance added)).map stretch =
      (others.map (·.movedBy other added)).map stretch := by
  have moved (distance : Nat) (fragments : List Fragment) :
      (fragments.map (·.movedBy distance added)).map stretch =
        (fragments.map stretch).map fun place => (added ++ place.1, place.2) := by
    rw [List.map_map, List.map_map]
    rfl
  rw [moved, moved, same]

variable {coarse fine : LexicalSettings}

/-- A source without delimiters of the coarser cut shows the same stretches in both cuts, if it is
blank or has no delimiters of the finer one either. -/
theorem map_stretch_visible_eq_of_free {source : List Char}
    (free : ∀ c ∈ source, coarse.isDelimiter c = false)
    (whole : ∀ fragment ∈ visible coarse source, ∀ c ∈ fragment.text,
      fine.isDelimiter c = false) :
    (visible fine source).map stretch = (visible coarse source).map stretch := by
  by_cases blank : Text.isBlank source = true
  · rw [visible_eq_nil_of_isBlank fine blank, visible_eq_nil_of_isBlank coarse blank]
  · have shown : Text.isBlank source = false := Bool.eq_false_iff.2 blank
    have alone := visible_eq_singleton free shown
    have inside : ∀ c ∈ source, fine.isDelimiter c = false := by
      rw [alone] at whole
      exact whole ⟨0, [], source⟩ List.mem_cons_self
    rw [alone, visible_eq_singleton inside shown]

/-- A finer cut shows the same stretches of a source as a coarser one whose visible fragments have
no delimiter of the finer one inside. -/
theorem map_stretch_visible_eq
    (finer : ∀ c, coarse.isDelimiter c = true → fine.isDelimiter c = true)
    {source : List Char} {pieces : List Text.Piece}
    (isCut : Text.IsCut coarse.isDelimiter source pieces)
    (whole : ∀ fragment ∈ visible coarse source, ∀ c ∈ fragment.text,
      fine.isDelimiter c = false) :
    (visible fine source).map stretch = (visible coarse source).map stretch := by
  -- Both cuts divide the source at the first delimiter of the coarser one.
  induction isCut with
  | last free => exact map_stretch_visible_eq_of_free free whole
  | @more text rest c pieces free delimits later ih =>
    rw [visible_append delimits, List.forall_mem_append] at whole
    have first := map_stretch_visible_eq_of_free free whole.1
    have others := ih fun fragment member => List.forall_mem_map.1 whole.2 fragment member
    rw [visible_append delimits, visible_append (finer c delimits), List.map_append,
      List.map_append, first, map_stretch_movedBy others]

end Fragment

/-- A sequence that lists the same tokens is the same sequence. -/
theorem TokenSequence.eq_of_toList_eq {tokens others : TokenSequence}
    (same : tokens.toList = others.toList) : tokens = others := by
  obtain ⟨run, eofSpan⟩ := tokens
  obtain ⟨other, otherSpan⟩ := others
  obtain ⟨bodies, lasts⟩ := List.append_inj' same rfl
  have runs : run = other := TokenRun.eq_of_tokens_eq (Array.toList_inj.1 bodies)
  have spans : eofSpan = otherSpan := congrArg Token.span (List.cons.inj lasts).1
  rw [runs, spans]

/-- Results that list the same tokens, or are the same error, are the same. -/
theorem TokenSequence.eq_of_map_toList_eq {result other : Except LexicalError TokenSequence}
    (same : result.map toList = other.map toList) : result = other := by
  cases result with
  | error error =>
    cases other with
    | error other => exact congrArg _ (Except.error.inj same)
    | ok others => contradiction
  | ok tokens =>
    cases other with
    | error other => contradiction
    | ok others => exact congrArg _ (eq_of_toList_eq (Except.ok.inj same))

/-- What delimits without line ends delimits with them. -/
theorem LexicalSettings.isDelimiter_split {settings : LexicalSettings} {c : Char}
    (delimits : { settings with splitOnNewlines := false }.isDelimiter c = true) :
    { settings with splitOnNewlines := true }.isDelimiter c = true := by
  simp only [isDelimiter, Bool.false_and, Bool.or_false] at delimits
  simp only [isDelimiter, delimits, Bool.true_or]

/-- Fragments that are the same stretches as words are words. -/
theorem Text.isWord_of_map_stretch_eq {fragments moved : List Fragment}
    (same : moved.map Fragment.stretch = fragments.map Fragment.stretch)
    (words : ∀ fragment ∈ fragments, IsWord fragment.text) {fragment : Fragment}
    (member : fragment ∈ moved) : IsWord fragment.text := by
  have inside : fragment.stretch ∈ fragments.map Fragment.stretch :=
    same ▸ List.mem_map_of_mem member
  obtain ⟨other, among, equal⟩ := List.mem_map.1 inside
  have texts : other.text = fragment.text := congrArg Prod.snd equal
  exact texts ▸ words other among

/-- Words that are the same stretches are judged the same, whatever their numbers and under all
settings. -/
theorem Text.map_judge_eq_of_isWord (settings others : LexicalSettings)
    {fragments moved : List Fragment}
    (same : moved.map Fragment.stretch = fragments.map Fragment.stretch)
    (words : ∀ fragment ∈ fragments, IsWord fragment.text) :
    moved.map (Fragment.judge others) = fragments.map (Fragment.judge settings) := by
  let token (stretch : List Char × List Char) : Except LexicalError Token :=
    .ok (Fragment.token ⟨0, stretch.1, stretch.2⟩ (tokenKind stretch.2) stretch.2)
  have judged (settings : LexicalSettings) {fragments : List Fragment}
      (words : ∀ fragment ∈ fragments, IsWord fragment.text) :
      fragments.map (Fragment.judge settings) = (fragments.map Fragment.stretch).map token := by
    rw [List.map_map]
    exact List.map_congr_left fun fragment member => (words fragment member).judge_eq settings
  rw [judged settings words, judged others fun _ => isWord_of_map_stretch_eq same words, same]

namespace Lexing

/-- Where a source is lexed to tokens and no operator is truncated, every visible fragment is a
word. -/
theorem isWord_of_untruncated {settings : LexicalSettings} {source : String} {lexing : Lexing}
    (lexed : ofSource? settings source = some lexing) {tokens : TokenSequence}
    (succeeded : lexing.result = .ok tokens) (untruncated : lexing.tally.truncatedOperators = 0)
    {fragment : Fragment} (member : fragment ∈ Fragment.visible settings source.toList) :
    Text.IsWord fragment.text := by
  have found := result_eq lexed
  rw [succeeded] at found
  obtain ⟨token, judged⟩ := (exists_collect_eq_ok_iff.1 ⟨_, found.symm⟩).1 fragment member
  rw [truncatedOperators_eq lexed succeeded, List.countP_eq_zero] at untruncated
  have whole : fragment.dropped settings = [] := by
    simpa using untruncated fragment member
  exact Text.isWord_of_judge_ok judged (Fragment.mem_ofSource_of_mem_visible member).2 whole

/-- A source that is lexed to tokens without line ends as delimiters, and of which no operator is
truncated, is lexed to the same tokens at the same places with line ends as delimiters, and again no
operator is truncated. -/
theorem split_eq_of_untruncated (settings : LexicalSettings) (source : String) (plain : Lexing)
    (tokens : TokenSequence)
    (lexed : ofSource? { settings with splitOnNewlines := false } source = some plain)
    (succeeded : plain.result = .ok tokens) (untruncated : plain.tally.truncatedOperators = 0) :
    ∃ split, ofSource? { settings with splitOnNewlines := true } source = some split ∧
      split.result = .ok tokens ∧ split.tally.truncatedOperators = 0 := by
  let coarse : LexicalSettings := { settings with splitOnNewlines := false }
  let fine : LexicalSettings := { settings with splitOnNewlines := true }
  have words : ∀ fragment ∈ Fragment.visible coarse source.toList, Text.IsWord fragment.text :=
    fun fragment => isWord_of_untruncated lexed succeeded untruncated
  have stretches : (Fragment.visible fine source.toList).map Fragment.stretch =
      (Fragment.visible coarse source.toList).map Fragment.stretch := by
    refine Fragment.map_stretch_visible_eq (fun c => LexicalSettings.isDelimiter_split)
      (Text.isCut_cut coarse.isDelimiter source.toList) ?_
    intro fragment member c inside
    exact (words fragment member).isDelimiter_eq_false fine inside
  have expectations : expected fine source.toList = expected coarse source.toList :=
    collect_congr (Text.map_judge_eq_of_isWord coarse fine stretches words) _
  obtain ⟨stop, moved⟩ := exists_advanceAll?_of_ok lexed succeeded
  obtain ⟨split, relexed⟩ := exists_ofSource?_of_advanceAll? fine moved
  have again : split.result = .ok tokens := by
    rw [← succeeded]
    apply TokenSequence.eq_of_map_toList_eq
    rw [result_eq relexed, expectations, result_eq lexed]
  refine ⟨split, relexed, again, ?_⟩
  rw [truncatedOperators_eq relexed again, List.countP_eq_zero]
  intro fragment member
  have word := Text.isWord_of_map_stretch_eq stretches words member
  simp [word.dropped_eq_nil fine]

/-- The line ends of this source stand alone between spaces, before a number and with a carriage
return before an operator. -/
theorem split_eq_of_untruncated_blank_lines :
    ∃ plain split tokens,
      ofSource? ⟨false, true, true, false⟩ " \n 1 \r\n +" = some plain ∧
      plain.result = .ok tokens ∧ plain.tally.truncatedOperators = 0 ∧
      ofSource? ⟨false, true, true, true⟩ " \n 1 \r\n +" = some split ∧
      split.result = .ok tokens ∧ split.tally.truncatedOperators = 0 ∧
      tokens.toList = [⟨.number, "1", ⟨⟨3, 2, 2⟩, ⟨4, 2, 3⟩⟩⟩, ⟨.plus, "+", ⟨⟨8, 3, 2⟩, ⟨9, 3, 3⟩⟩⟩,
        ⟨.eof, "EOF", ⟨⟨9, 3, 3⟩, ⟨9, 3, 3⟩⟩⟩] := by
  obtain ⟨plain, lexed, found⟩ :=
    @exists_result_eq ⟨false, true, true, false⟩ " \n 1 \r\n +" (by decide)
  have listed : expected ⟨false, true, true, false⟩ " \n 1 \r\n +".toList =
      .ok [⟨.number, "1", ⟨⟨3, 2, 2⟩, ⟨4, 2, 3⟩⟩⟩, ⟨.plus, "+", ⟨⟨8, 3, 2⟩, ⟨9, 3, 3⟩⟩⟩,
        ⟨.eof, "EOF", ⟨⟨9, 3, 3⟩, ⟨9, 3, 3⟩⟩⟩] := rfl
  rw [listed] at found
  obtain ⟨tokens, succeeded⟩ := exists_map_toList_eq_ok_iff.1 ⟨_, found⟩
  rw [succeeded] at found
  have untruncated : plain.tally.truncatedOperators = 0 := truncatedOperators_eq_length lexed
  obtain ⟨split, relexed, again, kept⟩ := split_eq_of_untruncated ⟨false, true, true, false⟩
    " \n 1 \r\n +" plain tokens lexed succeeded untruncated
  exact ⟨plain, split, tokens, lexed, succeeded, untruncated, relexed, again, kept,
    Except.ok.inj found⟩

end Lexing

end LexisFront
