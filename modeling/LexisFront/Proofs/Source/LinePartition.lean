import LexisFront.Proofs.Source.Faults
import LexisFront.Proofs.Source.LineIndex

/-!
# The lines of a source as a partition

Each number from one up to the number of lines names a line, no line holds a newline, and the lines
with newlines between them are the source: nothing of it is in two lines or in none.

Two counts of lines are in use. The index has one line more than there are newlines, so a source
always has a last line, which may be empty. A reader of files counts lines that were ended and one
more only when characters follow the last newline. The two differ by that empty last line.
-/

namespace LexisFront

/-- A piece of a text has no delimiter inside. -/
theorem Text.IsCut.free_of_mem {isDelimiter : Char → Bool} {text : List Char}
    {pieces : List Piece} (isCut : IsCut isDelimiter text pieces) {piece : Piece}
    (member : piece ∈ pieces) : ∀ c ∈ piece.text, isDelimiter c = false := by
  induction isCut with
  | last free =>
    obtain rfl := List.mem_singleton.1 member
    exact free
  | more free delimits later ih =>
    rcases List.mem_cons.1 member with rfl | others
    · exact free
    · exact ih others

namespace Source

/-- No line holds a newline. -/
theorem newline_notMem_of_mem_lines {source line : String} (member : line ∈ lines source) :
    '\n' ∉ line.toList := by
  obtain ⟨piece, inside, rfl⟩ := List.mem_map.1 member
  have free := (Text.isCut_cut (· == '\n') source.toList).free_of_mem inside
  rw [String.toList_ofList]
  intro newline
  have other := free '\n' newline
  contradiction

/-- The lines of a source with newlines between them are the source. -/
theorem intercalate_lines (source : String) : "\n".intercalate (lines source) = source := by
  have texts : (lines source).map String.toList = source.toList.splitOn '\n' := by
    rw [lines_eq, List.map_map, List.splitOn]
    exact List.map_id'' (fun text => String.toList_ofList) _
  have newline : "\n".toList = ['\n'] := rfl
  rw [← String.toList_inj, String.toList_intercalate, texts, newline, List.intercalate_splitOn]

/-- The lines are found under the numbers from one on. -/
theorem map_line?_range' (source : String) :
    (List.range' 1 (lines source).length).map (line? source) = (lines source).map some := by
  apply List.ext_getElem?
  intro index
  by_cases inside : index < (lines source).length
  · have number : 1 + index = index + 1 := Nat.add_comm 1 index
    simp [inside, number, line?]
  · simp [inside]

/-- A number names a line exactly when it is one of the numbers from one up to the number of
lines. -/
theorem exists_line?_eq_some_iff {source : String} {number : Nat} :
    (∃ line, line? source number = some line) ↔ 1 ≤ number ∧ number ≤ (lines source).length := by
  cases number with
  | zero => simp [line?]
  | succ index =>
    have found : (∃ line, (lines source)[index]? = some line) ↔ index < (lines source).length := by
      rw [← Option.isSome_iff_exists, isSome_getElem?]
    rw [line?, found]
    omega

/-- A reader has passed the newlines so far, and stands in a line that a character opened unless
the last one was a newline. -/
theorem foldl_countLines (text : List Char) :
    text.foldl (fun (state : Nat × Bool) c =>
        if c = '\n' then (state.1 + 1, false) else (state.1, true)) (0, false) =
      (text.count '\n', text.getLast?.any (· != '\n')) := by
  induction text using List.reverseRecOn with
  | nil => rfl
  | append_singleton text c ih =>
    rw [List.foldl_concat, ih, List.count_append, List.getLast?_concat]
    by_cases newline : c = '\n'
    · simp [newline]
    · simp [newline]

/-- A reader counts the newlines, and the last line as well when it has a character. -/
theorem countLines_eq (source : String) :
    countLines source = source.toList.count '\n' +
      if source.toList.getLast?.any (· != '\n') then 1 else 0 := by
  rw [countLines, String.foldl_eq_foldl_toList, foldl_countLines]
  dsimp only
  split
  · rfl
  · rfl

/-- The number of lines that a reader counts is that of the lines, less one when the last line is
empty. -/
theorem countLines_eq_length_lines (source : String) :
    countLines source = (lines source).length -
      if source = "" ∨ source.toList.getLast? = some '\n' then 1 else 0 := by
  have length : (lines source).length = source.toList.count '\n' + 1 := by
    rw [lines_eq, List.length_map, Text.length_splitOnP]
    rfl
  have empty : source = "" ↔ source.toList.getLast? = none := by
    rw [List.getLast?_eq_none_iff, String.toList_eq_nil_iff]
  rw [countLines_eq, length]
  simp only [empty]
  cases last : source.toList.getLast? with
  | none => simp
  | some c =>
    by_cases newline : c = '\n'
    · simp [newline]
    · simp [newline]

end Source

/-- The file stage records the number of lines that a reader counts. -/
theorem Loading.lines_of_result_ok {settings : FileSettings} {path : String} {entry : Entry}
    {file : SourceFile} (loaded : (ofEntry settings path entry).result = .ok file) :
    file.info.lines = Source.countLines file.source := by
  rcases result_cases settings path entry with ⟨error, failed, -⟩ |
    ⟨fullPath, source, info, rfl, -, -, -, faultless⟩
  · rw [failed] at loaded
    contradiction
  · have named : path ≠ "" := fun empty => faultless 0 _ (.emptyPath empty)
    rw [result_ofEntry_file settings named] at loaded
    split_ifs at loaded with large misnamed valid
    obtain rfl := Except.ok.inj loaded
    rfl

namespace Source

/-- The lines of a source divide it. The numbers from one up to the number of lines, and no others,
name a line; no line holds a newline; and the lines in order with newlines between them are the
source. The index finds these lines by the offsets at which they begin. A file with this source is
recorded with as many lines, or with one less when the source is empty or ends with a newline. -/
theorem lines_divide (source : String) :
    (∀ number, (∃ line, line? source number = some line) ↔
      1 ≤ number ∧ number ≤ (lines source).length) ∧
    (∀ number line, line? source number = some line → '\n' ∉ line.toList) ∧
    (∃ all, (List.range' 1 (lines source).length).map (line? source) = all.map some ∧
      "\n".intercalate all = source) ∧
    ((∀ number, indexedLine? source number = line? source number) ∧
      (lineStarts source).length = (lines source).length) ∧
    ∀ settings path entry file, (Loading.ofEntry settings path entry).result = .ok file →
      file.source = source → file.info.lines = (lines source).length -
        if source = "" ∨ source.toList.getLast? = some '\n' then 1 else 0 := by
  refine ⟨fun number => exists_line?_eq_some_iff, ?_, ?_, ?_, ?_⟩
  · intro number line found
    cases number with
    | zero => contradiction
    | succ index => exact newline_notMem_of_mem_lines (List.mem_of_getElem? found)
  · exact ⟨lines source, map_line?_range' source, intercalate_lines source⟩
  · exact ⟨indexedLine?_eq source, length_lineStarts source⟩
  · intro settings path entry file loaded same
    rw [Loading.lines_of_result_ok loaded, same, countLines_eq_length_lines]

/-- This source has three lines, the last of them empty, and its file is recorded with two. -/
theorem lines_divide_ended :
    ∃ file, (Loading.ofEntry ⟨true, false⟩ "a.lx" (.file "/a.lx" "é\nx\n".toUTF8)).result =
        .ok file ∧ file.source = "é\nx\n" ∧ file.info.lines = 2 ∧
      (lines "é\nx\n").length = 3 ∧ (∃ line, line? "é\nx\n" 3 = some line) ∧
      ¬ ∃ line, line? "é\nx\n" 4 = some line := by
  have three : (lines "é\nx\n").length = 3 := rfl
  have valid : "é\nx\n".toUTF8.IsValidUTF8 := "é\nx\n".isValidUTF8
  have loaded := Loading.result_ofEntry_file ⟨true, false⟩ (show "a.lx" ≠ "" by decide) "/a.lx"
    "é\nx\n".toUTF8
  rw [if_neg (by decide), if_neg (by decide), dif_pos valid] at loaded
  obtain ⟨names, -, -, -, recorded⟩ := lines_divide "é\nx\n"
  refine ⟨_, loaded, rfl, recorded _ _ _ _ loaded rfl, three, ?_, ?_⟩
  · exact (names 3).2 ⟨by decide, three.ge⟩
  · rw [names 4, three]
    decide

end Source

end LexisFront
