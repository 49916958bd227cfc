import LexisFront.Proofs.Lexing.Words
import LexisFront.Proofs.Source.Lines

/-!
# Counters stay in range

The counters of a run are natural numbers here, while a machine gives each of them 64 bits. A
fragment moves a counter up by no more than a few, apart from the longest length, which has a
limit of its own. So the counters are bounded by the number of fragments, and a source whose
positions are in range has too few of them to leave 64 bits.
-/

namespace LexisFront

/-- Counting one more token of a kind raises the bound of the counts by one. -/
theorem KindCounts.le_of_mem_add {counts : KindCounts} {bound : Nat}
    (small : ∀ entry ∈ counts, entry.2 ≤ bound) {kind : Kind} {entry : Kind × Nat}
    (member : entry ∈ counts.add kind) : entry.2 ≤ bound + 1 := by
  have old {entry : Kind × Nat} (member : entry ∈ counts) : entry.2 ≤ bound + 1 :=
    Nat.le_succ_of_le (small entry member)
  fun_induction KindCounts.add counts kind with
  | case1 =>
    obtain rfl := List.mem_singleton.1 member
    exact Nat.le_add_left 1 bound
  | case2 count rest =>
    rcases List.mem_cons.1 member with rfl | later
    · exact Nat.succ_le_succ (small _ List.mem_cons_self)
    · exact old (List.mem_cons_of_mem _ later)
  | case3 other count rest different first =>
    rcases List.mem_cons.1 member with rfl | later
    · exact Nat.le_add_left 1 bound
    · exact old later
  | case4 other count rest different last ih =>
    rcases List.mem_cons.1 member with rfl | later
    · exact old List.mem_cons_self
    · exact ih (fun entry member => small entry (List.mem_cons_of_mem _ member)) later
        (fun member => old (List.mem_cons_of_mem _ member))

namespace Tally

/-- No counter of a tally is above a bound. -/
structure AtMost (tally : Tally) (bound : Nat) : Prop where
  /-- The bound of the fragments met. -/
  fragmentsSeen : tally.fragmentsSeen ≤ bound
  /-- The bound of the fragments skipped. -/
  fragmentsSkipped : tally.fragmentsSkipped ≤ bound
  /-- The bound of all tokens. -/
  totalTokens : tally.totalTokens ≤ bound
  /-- The bound of the keywords. -/
  keywordTokens : tally.keywordTokens ≤ bound
  /-- The bound of the identifiers. -/
  identifierTokens : tally.identifierTokens ≤ bound
  /-- The bound of the numbers. -/
  numberTokens : tally.numberTokens ≤ bound
  /-- The bound of the null literals. -/
  nullTokens : tally.nullTokens ≤ bound
  /-- The bound of the operators. -/
  operatorTokens : tally.operatorTokens ≤ bound
  /-- The bound of the parentheses. -/
  groupingTokens : tally.groupingTokens ≤ bound
  /-- The bound of the truncated operators. -/
  truncatedOperators : tally.truncatedOperators ≤ bound
  /-- The bound of the longest length. -/
  maxFragmentLength : tally.maxFragmentLength ≤ bound
  /-- The bound of each kind. -/
  kindCounts : ∀ entry ∈ tally.kindCounts, entry.2 ≤ bound

namespace AtMost

variable {tally : Tally} {bound : Nat}

/-- A bound may be raised. -/
theorem mono {larger : Nat} (atMost : tally.AtMost bound) (le : bound ≤ larger) :
    tally.AtMost larger where
  fragmentsSeen := atMost.fragmentsSeen.trans le
  fragmentsSkipped := atMost.fragmentsSkipped.trans le
  totalTokens := atMost.totalTokens.trans le
  keywordTokens := atMost.keywordTokens.trans le
  identifierTokens := atMost.identifierTokens.trans le
  numberTokens := atMost.numberTokens.trans le
  nullTokens := atMost.nullTokens.trans le
  operatorTokens := atMost.operatorTokens.trans le
  groupingTokens := atMost.groupingTokens.trans le
  truncatedOperators := atMost.truncatedOperators.trans le
  maxFragmentLength := atMost.maxFragmentLength.trans le
  kindCounts entry member := (atMost.kindCounts entry member).trans le

/-- Meeting a fragment raises the bound by one. -/
theorem seeFragment (atMost : tally.AtMost bound) : tally.seeFragment.AtMost (bound + 1) :=
  { atMost.mono (Nat.le_succ bound) with
    fragmentsSeen := Nat.succ_le_succ atMost.fragmentsSeen }

/-- Skipping a fragment raises the bound by one. -/
theorem skipFragment (atMost : tally.AtMost bound) : tally.skipFragment.AtMost (bound + 1) :=
  { atMost.mono (Nat.le_succ bound) with
    fragmentsSkipped := Nat.succ_le_succ atMost.fragmentsSkipped }

/-- A length does not raise a bound that is no smaller than the limit of lengths. -/
theorem noteLength (atMost : tally.AtMost bound) (wide : Limits.maxFragmentLength ≤ bound)
    (length : Nat) : (tally.noteLength length).AtMost bound := by
  unfold Tally.noteLength
  split
  · rename_i fits
    exact { atMost with
      maxFragmentLength := Nat.max_le.2 ⟨atMost.maxFragmentLength, fits.trans wide⟩ }
  · exact atMost

/-- Dropped characters raise the bound by one. -/
theorem noteDropped (atMost : tally.AtMost bound) (dropped : List Char) :
    (tally.noteDropped dropped).AtMost (bound + 1) := by
  have grown := atMost.mono (Nat.le_succ bound)
  unfold Tally.noteDropped
  split
  · exact grown
  · exact { grown with truncatedOperators := Nat.succ_le_succ atMost.truncatedOperators }

/-- Counting a token by what it is raises the bound by one. -/
theorem countKind (atMost : tally.AtMost bound) (kind : Kind) :
    (tally.countKind kind).AtMost (bound + 1) := by
  have grown := atMost.mono (Nat.le_succ bound)
  unfold Tally.countKind
  split
  case h_1 => exact { grown with keywordTokens := Nat.succ_le_succ atMost.keywordTokens }
  case h_2 => exact { grown with nullTokens := Nat.succ_le_succ atMost.nullTokens }
  case h_3 => exact { grown with identifierTokens := Nat.succ_le_succ atMost.identifierTokens }
  case h_4 => exact { grown with numberTokens := Nat.succ_le_succ atMost.numberTokens }
  case h_5 | h_6 => exact { grown with groupingTokens := Nat.succ_le_succ atMost.groupingTokens }
  case h_12 => exact grown
  all_goals exact { grown with operatorTokens := Nat.succ_le_succ atMost.operatorTokens }

/-- Counting a token raises the bound by two. -/
theorem countToken (atMost : tally.AtMost bound) (detailed : Bool) (kind : Kind) :
    (tally.countToken detailed kind).AtMost (bound + 2) := by
  have counted := atMost.countKind kind
  have grown := counted.mono (Nat.le_succ (bound + 1))
  unfold Tally.countToken
  split
  · exact { grown with kindCounts := fun _ => KindCounts.le_of_mem_add counted.kindCounts }
  · exact grown

/-- The token of a fragment raises the bound by four. -/
theorem talliedToken (atMost : tally.AtMost bound) (wide : Limits.maxFragmentLength ≤ bound)
    (settings : LexicalSettings) (fragment : Fragment) (token : Token) :
    (Lexer.talliedToken settings tally fragment token).AtMost (bound + 4) := by
  have measured := atMost.seeFragment.noteLength (Nat.le_succ_of_le wide) fragment.text.length
  exact (measured.noteDropped _).countToken settings.detailedMetrics token.kind

end AtMost

end Tally

/-- A run raises the bound of its counters by four for each fragment, and by one more. -/
theorem Lexer.Runs.atMost {settings : LexicalSettings} {stop : Position} {lexer : Lexer}
    {fragments : List Fragment} {lexing : Lexing} (runs : Runs settings stop lexer fragments lexing)
    {bound : Nat} (wide : Limits.maxFragmentLength ≤ bound) (started : lexer.tally.AtMost bound)
    (few : lexer.run.size ≤ bound) :
    lexing.tally.AtMost (bound + 4 * fragments.length + 1) := by
  -- The bound moves up with each fragment, so the induction is for every bound.
  induction runs generalizing bound with
  | finish =>
    have grown := started.mono (Nat.le_succ bound)
    exact { grown with totalTokens := Nat.succ_le_succ few }
  | skip blank later ih =>
    have passed := started.seeFragment.skipFragment
    refine (ih (by omega) passed (few.trans (by omega))).mono ?_
    rw [List.length_cons]
    omega
  | full visible many =>
    refine started.seeFragment.mono ?_
    omega
  | refuse visible few judged =>
    refine (started.seeFragment.noteLength (Nat.le_succ_of_le wide) _).mono ?_
    omega
  | @accept lexer cursor run fragment rest token lexing visible room judged pushed later ih =>
    have passed := started.talliedToken wide settings fragment token
    have size : run.size ≤ bound + 4 := by
      simp only [TokenRun.size, pushed, Array.size_push] at few ⊢
      omega
    refine (ih (by omega) passed size).mono ?_
    rw [List.length_cons]
    omega

/-- A source has one fragment more than delimiters. -/
theorem Fragment.length_ofSource (isDelimiter : Char → Bool) (source : List Char) :
    (ofSource isDelimiter source).length = source.countP isDelimiter + 1 := by
  have count : (ofSource isDelimiter source).length =
      (source.splitOnP isDelimiter).length := by
    rw [← List.length_map text, ofSource, map_text_number]
  rw [count, Text.length_splitOnP]

/-- A source has at most one fragment more than characters. -/
theorem Fragment.length_ofSource_le (isDelimiter : Char → Bool) (source : List Char) :
    (ofSource isDelimiter source).length ≤ source.length + 1 := by
  rw [length_ofSource]
  exact Nat.succ_le_succ List.countP_le_length

/-- The counters of lexing a source of bounded length are in the range of 64 bits. -/
theorem Lexing.atMost_of_ofSource? {settings : LexicalSettings} {source : String}
    (short : source.length ≤ UInt32.size - 2) {lexing : Lexing}
    (lexed : ofSource? settings source = some lexing) :
    lexing.tally.AtMost (UInt64.size - 1) := by
  obtain ⟨outcome, runs, rfl⟩ := runs_of_ofSource? lexed
  have fresh : ({} : Tally).AtMost Limits.maxFragmentLength := by
    constructor <;> simp
  have counted := runs.atMost (Nat.le_refl _) fresh (Nat.zero_le _)
  have fragments := Fragment.length_ofSource_le settings.isDelimiter source.toList
  rw [String.length_toList] at fragments
  refine counted.mono ?_
  have narrow : UInt32.size = 4294967296 := rfl
  have wide : UInt64.size = 18446744073709551616 := rfl
  have limit : Limits.maxFragmentLength = 4096 := rfl
  omega

end LexisFront
