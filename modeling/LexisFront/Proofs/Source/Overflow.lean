import LexisFront.Proofs.Source.Lines

/-!
# Where the counters of a position end

Moving past a text checks three counters at every character and sets one of them back at every
newline. Both can be said of the text as a whole. The place after it is counted at once, from its
bytes, its newlines and its last line. The move has no result for one of four causes: too many
bytes, too many newlines, a first line that goes on beyond the last column, or a later line that
does so from the first column. A column that is too large somewhere in the middle counts, even if a
newline follows it, so the causes look at every line and not only at the last one.

The move stops exactly when the unchecked place after some part in front is out of range. Each
cause names such a part, and each such part shows one of the causes.
-/

namespace LexisFront

namespace Text

/-- A part in front of a text that has no newline is in the first line of the text. -/
theorem length_le_firstLine {before text : List Char} (front : before <+: text)
    (free : '\n' ∉ before) : before.length ≤ (firstLine text).length := by
  obtain ⟨rest, rfl⟩ := front
  rw [firstLine_append, if_neg free, firstLine_eq_self free, List.length_append]
  exact Nat.le_add_right _ _

/-- A text with a newline is what comes before its last newline, that newline and its last line. -/
theorem exists_eq_append_lastLine {text : List Char} (newline : '\n' ∈ text) :
    ∃ before, text = before ++ '\n' :: lastLine text := by
  induction text using List.reverseRecOn with
  | nil => contradiction
  | append_singleton text c ih =>
    by_cases last : c = '\n'
    · subst last
      exact ⟨text, by rw [lastLine_concat_newline]⟩
    · have earlier : '\n' ∈ text := by
        rcases List.mem_append.1 newline with inside | final
        · exact inside
        · exact absurd (List.mem_singleton.1 final).symm last
      obtain ⟨before, parts⟩ := ih earlier
      refine ⟨before, ?_⟩
      rw [lastLine_concat last, ← List.cons_append, ← List.append_assoc, ← parts]

end Text

namespace Position

/-- The place after a text, counted from the bytes, the newlines and the last line of the text. -/
def landing (position : Position) (text : List Char) : Position where
  offset := position.offset + (String.ofList text).utf8ByteSize
  line := position.line + text.count '\n'
  column :=
    if text.count '\n' = 0 then position.column + text.length
    else 1 + (Text.lastLine text).length

/-- Why there is no place after a text. -/
inductive Overflows (position : Position) (text : List Char) : Prop
  /-- The text has too many bytes. -/
  | offset (beyond : maxOffset < position.offset + (String.ofList text).utf8ByteSize)
  /-- The text has too many newlines. -/
  | line (beyond : maxLine < position.line + text.count '\n')
  /-- Up to the first newline there are too many characters for the column. -/
  | firstLine (beyond : maxColumn < position.column + (Text.firstLine text).length)
  /-- After a newline there are too many characters without another one. -/
  | laterLine {before stretch after : List Char}
      (parts : text = before ++ '\n' :: (stretch ++ after)) (free : '\n' ∉ stretch)
      (beyond : maxColumn - 1 < stretch.length)

/-- A text without newlines moves the column by its characters. -/
theorem column_afterAll_of_free (position : Position) {text : List Char} (free : '\n' ∉ text) :
    (position.afterAll text).column = position.column + text.length := by
  induction text generalizing position with
  | nil => rfl
  | cons c text ih =>
    have other : c ≠ '\n' := fun newline => free (newline ▸ List.mem_cons_self)
    have later : '\n' ∉ text := fun member => free (List.mem_cons_of_mem c member)
    have moved : (position.after c).column = position.column + 1 := by
      rw [after, if_neg other]
    rw [afterAll_cons, ih _ later, moved, List.length_cons]
    omega

/-- After a newline the column counts from one. -/
theorem column_afterAll_newline (position : Position) (before : List Char) {stretch : List Char}
    (free : '\n' ∉ stretch) :
    (position.afterAll (before ++ '\n' :: stretch)).column = 1 + stretch.length := by
  rw [afterAll_append, afterAll_cons, column_afterAll_of_free _ free]
  rfl

/-- The column after a text counts its last line, from the first column if a newline is before. -/
theorem column_afterAll (position : Position) (text : List Char) :
    (position.afterAll text).column =
      if text.count '\n' = 0 then position.column + text.length
      else 1 + (Text.lastLine text).length := by
  by_cases newline : '\n' ∈ text
  · obtain ⟨before, parts⟩ := Text.exists_eq_append_lastLine newline
    have free := Text.newline_notMem_lastLine text
    have counted : text.count '\n' ≠ 0 := fun none => List.count_eq_zero.1 none newline
    rw [if_neg counted]
    conv_lhs => rw [parts]
    exact column_afterAll_newline position before free
  · rw [if_pos (List.count_eq_zero.2 newline)]
    exact column_afterAll_of_free position newline

/-- The unchecked move past a text gets to where the text lands. -/
theorem afterAll_eq_landing (position : Position) (text : List Char) :
    position.afterAll text = position.landing text := by
  have counters : position.afterAll text = ⟨(position.afterAll text).offset,
      (position.afterAll text).line, (position.afterAll text).column⟩ := rfl
  rw [counters, offset_afterAll, line_afterAll, column_afterAll, landing, Text.utf8ByteSize_ofList]

/-- The checked move past a text stops exactly when the place after some part in front is out of
range. -/
theorem advanceAll?_eq_none_iff_exists {position : Position} (inRange : position.InRange)
    (text : List Char) :
    position.advanceAll? text = none ↔
      ∃ before, before <+: text ∧ ¬ (position.afterAll before).InRange := by
  induction text generalizing position with
  | nil =>
    constructor
    · intro stopped
      contradiction
    · rintro ⟨before, front, outside⟩
      obtain rfl := List.prefix_nil.1 front
      exact absurd inRange outside
  | cons c text ih =>
    rw [advanceAll?_cons, advance?]
    by_cases next : (position.after c).InRange
    · rw [if_pos next, Option.bind_some, ih next]
      constructor
      · rintro ⟨before, front, outside⟩
        exact ⟨c :: before, List.cons_prefix_cons.2 ⟨rfl, front⟩, outside⟩
      · rintro ⟨before, front, outside⟩
        rcases List.prefix_cons_iff.1 front with rfl | ⟨later, rfl, behind⟩
        · exact absurd inRange outside
        · exact ⟨later, behind, outside⟩
    · rw [if_neg next]
      have first : [c] <+: c :: text := ⟨text, rfl⟩
      exact ⟨fun _ => ⟨[c], first, next⟩, fun _ => rfl⟩

/-- Each cause names a part in front after which the place is out of range. -/
theorem Overflows.exists_outside {position : Position} {text : List Char}
    (overflows : position.Overflows text) :
    ∃ before, before <+: text ∧ ¬ (position.afterAll before).InRange := by
  cases overflows with
  | offset beyond =>
    refine ⟨text, List.prefix_rfl, ?_⟩
    rintro ⟨within, -, -⟩
    rw [offset_afterAll, ← Text.utf8ByteSize_ofList] at within
    omega
  | line beyond =>
    refine ⟨text, List.prefix_rfl, ?_⟩
    rintro ⟨-, within, -⟩
    rw [line_afterAll] at within
    omega
  | firstLine beyond =>
    have free := Text.newline_notMem_firstLine text
    refine ⟨Text.firstLine text, List.takeWhile_prefix _, ?_⟩
    rintro ⟨-, -, within⟩
    rw [column_afterAll_of_free position free] at within
    omega
  | @laterLine before stretch after parts free beyond =>
    have front : before ++ '\n' :: stretch <+: text := ⟨after, by rw [parts]; simp⟩
    refine ⟨before ++ '\n' :: stretch, front, ?_⟩
    rintro ⟨-, -, within⟩
    rw [column_afterAll_newline position before free] at within
    omega

/-- A part in front after which the place is out of range shows one of the causes. -/
theorem overflows_of_outside {position : Position} {before text : List Char}
    (front : before <+: text) (outside : ¬ (position.afterAll before).InRange) :
    position.Overflows text := by
  obtain ⟨rest, rfl⟩ := front
  have bytes : (String.ofList (before ++ rest)).utf8ByteSize =
      Text.byteCount before + Text.byteCount rest := by
    rw [Text.utf8ByteSize_ofList, Text.byteCount_append]
  have newlines : (before ++ rest).count '\n' = before.count '\n' + rest.count '\n' :=
    List.count_append
  -- Offset and line only grow on the way to the end of the text. The column may be set back, so its
  -- cause is found in the line on which the part in front ends.
  by_cases offsets : (position.afterAll before).offset ≤ maxOffset
  · by_cases lines : (position.afterAll before).line ≤ maxLine
    · have column : maxColumn < (position.afterAll before).column := by
        by_contra small
        exact outside ⟨offsets, lines, by omega⟩
      by_cases newline : '\n' ∈ before
      · obtain ⟨earlier, parts⟩ := Text.exists_eq_append_lastLine newline
        have free := Text.newline_notMem_lastLine before
        rw [parts, column_afterAll_newline position earlier free] at column
        have whole : before ++ rest = earlier ++ '\n' :: (Text.lastLine before ++ rest) := by
          conv_lhs => rw [parts]
          simp
        have positive : 0 < maxColumn := by decide
        exact .laterLine whole free (by omega)
      · have within := Text.length_le_firstLine (List.prefix_append before rest) newline
        rw [column_afterAll_of_free position newline] at column
        exact .firstLine (by omega)
    · rw [line_afterAll] at lines
      exact .line (by omega)
  · rw [offset_afterAll] at offsets
    exact .offset (by omega)

/-- The checked move past a text has no result for one of the four causes, and for no other. -/
theorem advanceAll?_eq_none_iff {position : Position} (inRange : position.InRange)
    (text : List Char) : position.advanceAll? text = none ↔ position.Overflows text := by
  rw [advanceAll?_eq_none_iff_exists inRange]
  constructor
  · rintro ⟨before, front, outside⟩
    exact overflows_of_outside front outside
  · intro overflows
    exact overflows.exists_outside

/-- A text that is not empty is passed to a later place. -/
theorem compare_afterAll (position : Position) {text : List Char} (nonempty : text ≠ []) :
    compare position (position.afterAll text) = .lt := by
  have bytes := Text.length_le_byteCount text
  have positive := List.length_pos_iff.2 nonempty
  have offsets : position.offset < (position.afterAll text).offset := by
    rw [offset_afterAll]
    omega
  have compared : compare position.offset (position.afterAll text).offset = .lt :=
    Nat.compare_eq_lt.2 offsets
  show (compare position.offset (position.afterAll text).offset).then _ = .lt
  rw [compared]
  rfl

end Position

namespace Span

/-- The span over a text is there whenever the place after the text is: it never runs backwards. -/
theorem covering?_eq_map (position : Position) (text : List Char) :
    covering? position text = (position.advanceAll? text).map (Span.mk position) := by
  rw [covering?]
  cases moved : position.advanceAll? text with
  | none => rfl
  | some stop =>
    obtain rfl := Position.eq_afterAll_of_advanceAll? moved
    rw [Option.bind_some, between?_afterAll, Option.map_some]

/-- The span over a text has the bytes of the text. -/
theorem size?_of_covering? {position : Position} {text : List Char} {span : Span}
    (covered : covering? position text = some span) :
    span.size? = some (String.ofList text).utf8ByteSize := by
  rw [covering?_eq_map] at covered
  obtain ⟨stop, moved, rfl⟩ := Option.map_eq_some_iff.1 covered
  obtain rfl := Position.eq_afterAll_of_advanceAll? moved
  have forward : position.offset ≤ (position.afterAll text).offset := by
    rw [Position.offset_afterAll]
    omega
  have bytes : (position.afterAll text).offset - position.offset = Text.byteCount text := by
    rw [Position.offset_afterAll]
    omega
  rw [size?, if_pos forward, bytes, Text.utf8ByteSize_ofList]

end Span

namespace Position

/-- From a place in range, a text has a place after it unless one of the four causes is there. That
place is counted at once from the bytes, the newlines and the last line of the text. Moving past two
texts in turn is moving past them together. A text that is not empty is passed to a later place, and
the span over a text is there whenever the place after the text is, with as many bytes. -/
theorem advanceAll?_eq_landing (position : Position) (inRange : position.InRange)
    (text : List Char) :
    (position.advanceAll? text = none ↔ position.Overflows text) ∧
      (¬ position.Overflows text → position.advanceAll? text = some (position.landing text)) ∧
      (∀ left right, text = left ++ right →
        position.advanceAll? text = (position.advanceAll? left).bind (·.advanceAll? right)) ∧
      (text ≠ [] → ∀ stop, position.advanceAll? text = some stop →
        compare position stop = .lt) ∧
      Span.covering? position text = (position.advanceAll? text).map (Span.mk position) ∧
      ∀ span, Span.covering? position text = some span →
        span.size? = some (String.ofList text).utf8ByteSize := by
  have refused := advanceAll?_eq_none_iff inRange text
  refine ⟨refused, ?_, ?_, ?_, Span.covering?_eq_map position text, ?_⟩
  · intro fits
    have moves : position.advanceAll? text ≠ none := fun stopped => fits (refused.1 stopped)
    obtain ⟨stop, moved⟩ := Option.ne_none_iff_exists'.1 moves
    have reached : stop = position.afterAll text := eq_afterAll_of_advanceAll? moved
    rw [moved, reached, afterAll_eq_landing]
  · rintro left right rfl
    exact advanceAll?_append position left right
  · intro nonempty stop moved
    obtain rfl := eq_afterAll_of_advanceAll? moved
    exact compare_afterAll position nonempty
  · intro span covered
    exact Span.size?_of_covering? covered

/-- From the last column of a line a newline can be passed and the line after it goes on, with three
bytes to spare in the offset. A letter cannot, although the newline behind it would set the column
back. -/
theorem advanceAll?_eq_landing_last_column :
    let position : Position := ⟨maxOffset - 6, maxLine - 1, maxColumn⟩
    position.InRange ∧
      position.advanceAll? ['\n', 'é'] = some ⟨maxOffset - 3, maxLine, 2⟩ ∧
      compare position ⟨maxOffset - 3, maxLine, 2⟩ = .lt ∧
      position.advanceAll? ['x', '\n'] = none := by
  intro position
  have inRange : position.InRange := by decide
  obtain ⟨refused, landed, -, later, -, -⟩ :=
    advanceAll?_eq_landing position inRange ['\n', 'é']
  have fits : ¬ position.Overflows ['\n', 'é'] := by
    intro overflows
    have stopped := refused.2 overflows
    contradiction
  have moved : position.advanceAll? ['\n', 'é'] = some ⟨maxOffset - 3, maxLine, 2⟩ := landed fits
  have beyond : position.Overflows ['x', '\n'] := .firstLine (by decide)
  exact ⟨inRange, moved, later (by decide) _ moved,
    (advanceAll?_eq_landing position inRange ['x', '\n']).1.2 beyond⟩

end Position

end LexisFront
