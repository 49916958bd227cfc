import LexisFront.Proofs.Lexing.Truncation

/-!
# Words between spaces

A word is a fragment that every setting turns into one token with all of its characters: a glyph
alone, digits, or letters. Words joined by single spaces are cut back into the same words under
every setting, because no character of a word is white space while every delimiter is. So lexing
them gives one token for each word, of a kind that the word alone decides, and truncates nothing.
-/

namespace LexisFront

namespace Text

/-- A text that is a token by itself. -/
structure IsWord (word : List Char) : Prop where
  /-- A word has characters. -/
  nonempty : word ≠ []
  /-- A word has no more characters than a fragment may have. -/
  short : word.length ≤ Limits.maxFragmentLength
  /-- A word is a glyph alone, digits or letters. -/
  shape : (∃ glyph kind, word = [glyph] ∧ Fragment.glyphKinds.lookup glyph = some kind) ∨
    (∀ c ∈ word, c.isDigit = true) ∨ ∀ c ∈ word, c.isAlpha = true

/-- The kind of the token of a word. -/
def tokenKind (word : List Char) : Kind :=
  match word.head?.bind (Fragment.glyphKinds.lookup ·) with
  | some kind => kind
  | none => if word.all Char.isDigit then .number else Fragment.wordKind word

/-- A letter is one of the two ranges of letters. -/
theorem toNat_of_isAlpha {c : Char} (letter : c.isAlpha = true) :
    (65 ≤ c.toNat ∧ c.toNat ≤ 90) ∨ (97 ≤ c.toNat ∧ c.toNat ≤ 122) := by
  rcases Bool.or_eq_true_iff.1 letter with upper | lower
  · exact .inl (of_decide_eq_true upper)
  · obtain ⟨first, last⟩ := Bool.and_eq_true_iff.1 lower
    exact .inr ⟨of_decide_eq_true first, of_decide_eq_true last⟩

/-- A digit is in the range of digits. -/
theorem toNat_of_isDigit {c : Char} (digit : c.isDigit = true) :
    48 ≤ c.toNat ∧ c.toNat ≤ 57 :=
  Char.isDigit_iff_toNat.1 digit

/-- A letter or digit is not white space. -/
theorem isBlankChar_of_isAlphanum {c : Char} (proper : c.isAlphanum = true) :
    isBlankChar c = false := by
  have range : (65 ≤ c.toNat ∧ c.toNat ≤ 90) ∨ (97 ≤ c.toNat ∧ c.toNat ≤ 122) ∨
      (48 ≤ c.toNat ∧ c.toNat ≤ 57) := by
    rcases Bool.or_eq_true_iff.1 proper with letter | digit
    · have letters := toNat_of_isAlpha letter
      omega
    · have digits := toNat_of_isDigit digit
      omega
  simp only [isBlankChar, Bool.or_eq_false_iff, Bool.and_eq_false_iff, decide_eq_false_iff_not,
    beq_eq_false_iff_ne]
  omega

/-- A letter or digit opens no operator. -/
theorem lookup_glyphKinds_of_isAlphanum {c : Char} (proper : c.isAlphanum = true) :
    Fragment.glyphKinds.lookup c = none := by
  rw [Fragment.lookup_glyphKinds]
  unfold Kind.ofGlyph?
  split
  case h_8 => rfl
  all_goals contradiction

/-- A glyph is not white space. -/
theorem isBlankChar_of_lookup_glyphKinds {c : Char} {kind : Kind}
    (found : Fragment.glyphKinds.lookup c = some kind) : isBlankChar c = false := by
  rw [Fragment.lookup_glyphKinds] at found
  unfold Kind.ofGlyph? at found
  split at found
  case h_8 => contradiction
  all_goals rfl

/-- Every delimiter is white space. -/
theorem isBlankChar_of_isDelimiter {settings : LexicalSettings} {c : Char}
    (delimits : settings.isDelimiter c = true) : isBlankChar c = true := by
  simp only [LexicalSettings.isDelimiter, Bool.or_eq_true, Bool.and_eq_true, beq_iff_eq]
    at delimits
  rcases delimits with rfl | ⟨-, rfl | rfl⟩ <;> rfl

namespace IsWord

variable {word : List Char}

/-- A word is a glyph alone, or all its characters are letters or digits. -/
theorem isAlphanum (isWord : IsWord word) :
    (∃ glyph kind, word = [glyph] ∧ Fragment.glyphKinds.lookup glyph = some kind) ∨
      ∀ c ∈ word, c.isAlphanum = true := by
  rcases isWord.shape with glyph | digits | letters
  · exact .inl glyph
  · exact .inr fun c member => by simp [Char.isAlphanum, digits c member]
  · exact .inr fun c member => by simp [Char.isAlphanum, letters c member]

/-- No character of a word is white space. -/
theorem isBlankChar_eq_false (isWord : IsWord word) {c : Char} (member : c ∈ word) :
    isBlankChar c = false := by
  rcases isWord.isAlphanum with ⟨glyph, kind, rfl, found⟩ | proper
  · obtain rfl := List.mem_singleton.1 member
    exact isBlankChar_of_lookup_glyphKinds found
  · exact isBlankChar_of_isAlphanum (proper c member)

/-- No character of a word delimits. -/
theorem isDelimiter_eq_false (isWord : IsWord word) (settings : LexicalSettings) {c : Char}
    (member : c ∈ word) : settings.isDelimiter c = false := by
  rw [Bool.eq_false_iff]
  intro delimits
  have blank := isBlankChar_of_isDelimiter delimits
  rw [isWord.isBlankChar_eq_false member] at blank
  contradiction

/-- A word is not blank. -/
theorem isBlank_eq_false (isWord : IsWord word) : isBlank word = false := by
  obtain ⟨first, rest, rfl⟩ := List.exists_cons_of_ne_nil isWord.nonempty
  rw [isBlank, List.all_cons, isWord.isBlankChar_eq_false List.mem_cons_self]
  rfl

/-- A fragment that is a word is a token with all its characters, under every setting. -/
theorem judge_eq {fragment : Fragment} (isWord : IsWord fragment.text)
    (settings : LexicalSettings) :
    fragment.judge settings =
      .ok (fragment.token (tokenKind fragment.text) fragment.text) := by
  have fits : ¬ Limits.maxFragmentLength < fragment.text.length := Nat.not_lt.2 isWord.short
  rw [Fragment.judge, if_neg fits, tokenKind]
  rcases isWord.isAlphanum with ⟨glyph, kind, alone, found⟩ | proper
  · simp [alone, found]
  · obtain ⟨first, rest, shape⟩ := List.exists_cons_of_ne_nil isWord.nonempty
    have noGlyph : fragment.text.head?.bind (Fragment.glyphKinds.lookup ·) = none := by
      rw [shape, List.head?_cons, Option.bind_some]
      exact lookup_glyphKinds_of_isAlphanum (proper first (by simp [shape]))
    simp only [noGlyph]
    by_cases digits : fragment.text.all Char.isDigit = true
    · rw [if_pos digits, if_pos digits]
    · have letters : fragment.text.all Char.isAlpha = true := by
        rcases isWord.shape with ⟨glyph, kind, alone, found⟩ | all | all
        · simp [alone, found] at noGlyph
        · exact absurd (List.all_eq_true.2 all) digits
        · exact List.all_eq_true.2 all
      rw [if_neg digits, if_neg digits, if_pos letters]

/-- The token of a fragment that is a word drops nothing. -/
theorem dropped_eq_nil {fragment : Fragment} (isWord : IsWord fragment.text)
    (settings : LexicalSettings) : fragment.dropped settings = [] := by
  rw [Fragment.dropped, isWord.judge_eq]
  simp

end IsWord

/-- A fragment that is a token with all its characters is a word. -/
theorem isWord_of_judge_ok {settings : LexicalSettings} {fragment : Fragment} {token : Token}
    (judged : fragment.judge settings = .ok token) (nonempty : fragment.text ≠ [])
    (whole : fragment.dropped settings = []) : IsWord fragment.text := by
  refine ⟨nonempty, Fragment.length_le_of_judge_ok judged, ?_⟩
  rcases Fragment.judge_ok_cases judged with ⟨glyph, rest, kind, shape, found, -, rfl⟩ |
    ⟨digits, -⟩ | ⟨letters, -⟩
  · have lost : fragment.dropped settings = rest := by
      simp [Fragment.dropped, judged, shape]
    have alone : rest = [] := lost.symm.trans whole
    rw [alone] at shape
    exact .inl ⟨glyph, kind, shape, found⟩
  · exact .inr (.inl (List.all_eq_true.1 digits))
  · exact .inr (.inr (List.all_eq_true.1 letters))

/-- Stretches without delimiters that are joined by a delimiter are split again. -/
theorem splitOnP_intercalate {isDelimiter : Char → Bool} {c : Char}
    (delimits : isDelimiter c = true) {words : List (List Char)} (nonempty : words ≠ [])
    (free : ∀ word ∈ words, ∀ c ∈ word, isDelimiter c = false) :
    ([c].intercalate words).splitOnP isDelimiter = words := by
  induction words with
  | nil => contradiction
  | cons word rest ih =>
    have first := free word List.mem_cons_self
    cases rest with
    | nil => rw [List.intercalate_singleton, List.splitOnP_eq_singleton first]
    | cons second rest =>
      rw [List.intercalate_cons_cons, List.append_assoc, List.singleton_append,
        List.splitOnP_append_cons_of_forall_mem first c delimits,
        ih (List.cons_ne_nil _ _) fun word member => free word (List.mem_cons_of_mem _ member)]

/-- The length of joined stretches is bounded by that of the longest one. -/
theorem length_intercalate_le {c : Char} {words : List (List Char)} {bound : Nat}
    (short : ∀ word ∈ words, word.length ≤ bound) :
    ([c].intercalate words).length ≤ words.length * (bound + 1) := by
  induction words with
  | nil => simp
  | cons word rest ih =>
    have first := short word List.mem_cons_self
    have later := ih fun word member => short word (List.mem_cons_of_mem _ member)
    cases rest with
    | nil =>
      rw [List.intercalate_singleton, List.length_singleton]
      omega
    | cons second rest =>
      rw [List.intercalate_cons_cons, List.length_append, List.length_append,
        List.length_singleton, List.length_cons, Nat.succ_mul]
      omega

end Text

namespace Fragment

/-- Numbered stretches keep their texts. -/
theorem map_text_number (source : List Char) (index start : Nat) (texts : List (List Char)) :
    (number source index start texts).map text = texts := by
  induction texts generalizing index start with
  | nil => rfl
  | cons text rest ih => rw [number, List.map_cons, ih]

/-- The visible fragments of a source are its stretches that are not blank. -/
theorem map_text_visible (settings : LexicalSettings) (source : List Char) :
    (visible settings source).map text =
      (source.splitOnP settings.isDelimiter).filter fun piece => !Text.isBlank piece := by
  have texts := map_text_number source 0 0 (source.splitOnP settings.isDelimiter)
  rw [← texts, List.filter_map]
  rfl

/-- Words joined by single spaces are the visible fragments again. -/
theorem map_text_visible_intercalate (settings : LexicalSettings) {words : List (List Char)}
    (each : ∀ word ∈ words, Text.IsWord word) :
    (visible settings ([' '].intercalate words)).map text = words := by
  rw [map_text_visible]
  by_cases none : words = []
  · subst none
    rfl
  · have space : settings.isDelimiter ' ' = true := rfl
    rw [Text.splitOnP_intercalate space none fun word member c inside =>
      (each word member).isDelimiter_eq_false settings inside]
    rw [List.filter_eq_self]
    intro word member
    rw [(each word member).isBlank_eq_false]
    rfl

end Fragment

namespace Lexing

/-- The tokens of fragments that are all words. -/
theorem body_eq_of_isWord {settings : LexicalSettings} {source : List Char}
    (each : ∀ fragment ∈ Fragment.visible settings source, Text.IsWord fragment.text)
    {tokens : TokenSequence} (found : expected settings source = .ok tokens.toList) :
    tokens.body = (Fragment.visible settings source).map fun fragment =>
      fragment.token (Text.tokenKind fragment.text) fragment.text := by
  have all := (map_judge_of_expected_ok found).1
  have judged : (Fragment.visible settings source).map (Fragment.judge settings) =
      ((Fragment.visible settings source).map fun fragment =>
        fragment.token (Text.tokenKind fragment.text) fragment.text).map .ok := by
    rw [List.map_map]
    exact List.map_congr_left fun fragment member => (each fragment member).judge_eq settings
  exact (List.map_inj_right fun _ _ => Except.ok.inj).1 (all.symm.trans judged)

/-- A source whose visible fragments are words, few enough, is lexed to a token for each of them,
and nothing is truncated. -/
theorem exists_tokens_of_isWord (settings : LexicalSettings) {source : String}
    (short : source.length ≤ UInt32.size - 2)
    (each : ∀ fragment ∈ Fragment.visible settings source.toList, Text.IsWord fragment.text)
    (fits : (Fragment.visible settings source.toList).length ≤ Limits.maxTokenCount - 1) :
    ∃ lexing tokens, ofSource? settings source = some lexing ∧ lexing.result = .ok tokens ∧
      (tokens.body = (Fragment.visible settings source.toList).map fun fragment =>
        fragment.token (Text.tokenKind fragment.text) fragment.text) ∧
      lexing.tally.truncatedOperators = 0 := by
  obtain ⟨lexing, lexed, found⟩ := exists_result_eq settings short
  obtain ⟨all, collected⟩ := exists_collect_eq_ok_iff.2
    ⟨fun fragment member => ⟨_, (each fragment member).judge_eq settings⟩, fits⟩
  cases succeeded : lexing.result with
  | error error =>
    rw [succeeded] at found
    have impossible := found.trans collected
    contradiction
  | ok tokens =>
    rw [succeeded] at found
    refine ⟨lexing, tokens, lexed, succeeded, body_eq_of_isWord each found.symm, ?_⟩
    rw [truncatedOperators_eq lexed succeeded, List.countP_eq_zero]
    intro fragment member
    simp [(each fragment member).dropped_eq_nil settings]

/-- Words joined by single spaces are lexed, under every setting, to one token each, of the kind
that the word decides, and nothing is truncated. -/
theorem exists_tokens_of_words (settings : LexicalSettings) {words : List String}
    (each : ∀ word ∈ words, Text.IsWord word.toList)
    (fits : words.length ≤ Limits.maxTokenCount - 1) :
    ∃ lexing tokens, ofSource? settings (" ".intercalate words) = some lexing ∧
      lexing.result = .ok tokens ∧ tokens.body.map (·.value) = words ∧
      (∀ token ∈ tokens.body, token.kind = Text.tokenKind token.value.toList) ∧
      lexing.tally.truncatedOperators = 0 := by
  have spelled : (" ".intercalate words).toList = [' '].intercalate (words.map String.toList) :=
    String.toList_intercalate
  have every : ∀ word ∈ words.map String.toList, Text.IsWord word := by
    intro word member
    obtain ⟨text, inside, rfl⟩ := List.mem_map.1 member
    exact each text inside
  have texts : (Fragment.visible settings (" ".intercalate words).toList).map Fragment.text =
      words.map String.toList := by
    rw [spelled]
    exact Fragment.map_text_visible_intercalate settings every
  have count : (Fragment.visible settings (" ".intercalate words).toList).length =
      words.length := by
    rw [← List.length_map Fragment.text, texts, List.length_map]
  have short : (" ".intercalate words).length ≤ UInt32.size - 2 := by
    have bound := @Text.length_intercalate_le ' ' _ _ fun word member => (every word member).short
    rw [← String.length_toList, spelled]
    rw [List.length_map] at bound
    simp only [Limits.maxFragmentLength, Limits.maxTokenCount] at bound fits
    have narrow : UInt32.size = 4294967296 := rfl
    omega
  obtain ⟨lexing, tokens, lexed, succeeded, body, whole⟩ := exists_tokens_of_isWord settings short
    (fun fragment member => every _ (texts ▸ List.mem_map_of_mem member)) (count ▸ fits)
  refine ⟨lexing, tokens, lexed, succeeded, ?_, ?_, whole⟩
  · calc tokens.body.map (·.value)
      _ = ((Fragment.visible settings (" ".intercalate words).toList).map Fragment.text).map
            String.ofList := by
        rw [body, List.map_map, List.map_map]
        rfl
      _ = words := by
        rw [texts, List.map_map]
        simp
  · intro token member
    rw [body] at member
    obtain ⟨fragment, -, rfl⟩ := List.mem_map.1 member
    simp [Fragment.token]

end Lexing

end LexisFront
