import LexisFront.Proofs.Lexing.Fragment
import LexisFront.Source.Excerpt
import Mathlib.Data.List.DropRight

/-!
# Lines and columns

A place is counted while moving past a text, and the lines of a source come from cutting it at its
newlines. The two agree: the line number of a place is one more than the newlines before it, its
column is one more than the characters since the last of them, and the line with that number is
these characters followed by those up to the next newline.
-/

namespace LexisFront

namespace Text

/-- The characters of a text after its last newline. -/
def lastLine (text : List Char) : List Char :=
  text.rtakeWhile (· != '\n')

/-- The characters of a text before its first newline. -/
def firstLine (text : List Char) : List Char :=
  text.takeWhile (· != '\n')

/-- The last line of a text has no newline. -/
theorem newline_notMem_lastLine (text : List Char) : '\n' ∉ lastLine text := by
  intro member
  have other := List.mem_rtakeWhile_imp member
  contradiction

/-- The first line of a text has no newline. -/
theorem newline_notMem_firstLine (text : List Char) : '\n' ∉ firstLine text := by
  intro member
  have other := List.mem_takeWhile_imp member
  contradiction

/-- After a newline a line is empty. -/
@[simp]
theorem lastLine_concat_newline (text : List Char) : lastLine (text ++ ['\n']) = [] :=
  List.rtakeWhile_concat_neg _ _ _ (by decide)

/-- Any other character makes the last line longer. -/
theorem lastLine_concat {c : Char} (other : c ≠ '\n') (text : List Char) :
    lastLine (text ++ [c]) = lastLine text ++ [c] :=
  List.rtakeWhile_concat_pos _ _ _ (by simpa using other)

/-- A text without newlines makes the last line longer. -/
theorem lastLine_append (text : List Char) {added : List Char} (free : '\n' ∉ added) :
    lastLine (text ++ added) = lastLine text ++ added := by
  induction added using List.reverseRecOn with
  | nil => simp
  | append_singleton added c ih =>
    obtain ⟨before, other⟩ : '\n' ∉ added ∧ c ≠ '\n' := by
      simpa [not_or, eq_comm] using free
    rw [← List.append_assoc, lastLine_concat other, ih before, List.append_assoc]

/-- Only a text without newlines lets what follows into its first line. -/
theorem firstLine_append (text added : List Char) :
    firstLine (text ++ added) = firstLine text ++ if '\n' ∈ text then [] else firstLine added := by
  induction text with
  | nil => rfl
  | cons c text ih =>
    by_cases newline : c = '\n'
    · simp [firstLine, newline]
    · simp only [firstLine] at ih ⊢
      simp [newline, Ne.symm newline, ih]

/-- A text without newlines is its first line. -/
theorem firstLine_eq_self {text : List Char} (free : '\n' ∉ text) : firstLine text = text := by
  rw [firstLine, List.takeWhile_eq_self_iff]
  intro c member
  rw [bne_iff_ne]
  rintro rfl
  exact free member

/-- The pieces of a text are its stretches between delimiters. -/
theorem IsCut.map_text {isDelimiter : Char → Bool} {text : List Char} {pieces : List Piece}
    (isCut : IsCut isDelimiter text pieces) :
    pieces.map Piece.text = text.splitOnP isDelimiter := by
  induction isCut with
  | last free => rw [List.splitOnP_eq_singleton free, List.map_singleton]
  | more free delimits later ih =>
    rw [List.splitOnP_append_cons_of_forall_mem free _ delimits, List.map_cons, ih]

/-- There is one stretch more than there are delimiters. -/
theorem length_splitOnP (isDelimiter : Char → Bool) (text : List Char) :
    (text.splitOnP isDelimiter).length = text.countP isDelimiter + 1 := by
  induction text with
  | nil => simp
  | cons c text ih =>
    rw [List.splitOnP_cons_eq_if_modifyHead, List.countP_cons]
    split <;> simp [ih]

/-- The first stretch goes up to the first delimiter. -/
theorem head?_splitOnP (isDelimiter : Char → Bool) (text : List Char) :
    (text.splitOnP isDelimiter).head? = some (text.takeWhile fun c => !isDelimiter c) := by
  induction text with
  | nil => simp
  | cons c text ih =>
    rw [List.splitOnP_cons_eq_if_modifyHead, List.takeWhile_cons]
    split
    · rename_i delimits
      simp [delimits]
    · rename_i other
      simp [other, ih]

/-- The stretch with the number of delimiters before a place goes through that place. -/
theorem getElem?_splitOnP_append (isDelimiter : Char → Bool) (before after : List Char) :
    ((before ++ after).splitOnP isDelimiter)[before.countP isDelimiter]? =
      some ((before.rtakeWhile fun c => !isDelimiter c) ++
        after.takeWhile fun c => !isDelimiter c) := by
  induction before using List.reverseRecOn generalizing after with
  | nil => simp [← List.head?_eq_getElem?, head?_splitOnP]
  | append_singleton before c ih =>
    rw [List.append_assoc, List.singleton_append, List.countP_append, List.countP_singleton]
    by_cases delimits : isDelimiter c = true
    · rw [List.splitOnP_append_cons _ _ delimits, if_pos delimits, ← length_splitOnP,
        List.getElem?_append_right (Nat.le_refl _), Nat.sub_self, ← List.head?_eq_getElem?,
        head?_splitOnP, List.rtakeWhile_concat_neg _ _ _ (by simp [delimits]), List.nil_append]
    · rw [if_neg delimits, Nat.add_zero, ih,
        List.rtakeWhile_concat_pos _ _ _ (by simp [delimits])]
      simp [delimits]

end Text

namespace Position

/-- A text moves the line by its newlines. -/
theorem line_afterAll (position : Position) (text : List Char) :
    (position.afterAll text).line = position.line + text.count '\n' := by
  induction text generalizing position with
  | nil => rfl
  | cons c text ih =>
    rw [afterAll_cons, ih, List.count_cons]
    by_cases newline : c = '\n'
    · simp only [after, newline, ↓reduceIte, beq_self_eq_true]
      omega
    · simp [after, newline]

/-- The column after a text from the start counts its last line. -/
theorem column_afterAll_start (text : List Char) :
    (start.afterAll text).column = (Text.lastLine text).length + 1 := by
  induction text using List.reverseRecOn with
  | nil => rfl
  | append_singleton text c ih =>
    rw [afterAll_append, afterAll_cons, afterAll_nil]
    by_cases newline : c = '\n'
    · simp [after, newline]
    · simp [after, newline, Text.lastLine_concat newline, ih]

end Position

namespace Source

/-- The lines of a source are its stretches between newlines. -/
theorem lines_eq (source : String) :
    lines source = (source.toList.splitOnP (· == '\n')).map String.ofList := by
  rw [lines, ← (Text.isCut_cut _ _).map_text, List.map_map]
  rfl

/-- The line of a place in a source is what stands around the place between two newlines. -/
theorem line?_afterAll (before after : List Char) :
    line? (String.ofList (before ++ after)) (Position.start.afterAll before).line =
      some (String.ofList (Text.lastLine before ++ Text.firstLine after)) := by
  have number : (Position.start.afterAll before).line = before.count '\n' + 1 := by
    rw [Position.line_afterAll, Nat.add_comm]
    rfl
  have found := Text.getElem?_splitOnP_append (· == '\n') before after
  rw [number, line?, lines_eq, String.toList_ofList, List.getElem?_map]
  rw [List.count, found]
  rfl

end Source

end LexisFront
