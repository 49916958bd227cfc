import LexisFront.Fragment.Tally
import LexisFront.Token.Basic
import Mathlib.Data.String.Basic

/-!
# Counts of kinds

A run that is asked to count kinds keeps a list of them with their numbers, in the order of their
names. Names tell kinds apart, so the list is a map as long as it is in order, and it stays in order
because a kind is put where its name belongs. `KindCounts.Counts` says of which tokens a list holds
the numbers; it is about every list of tokens, whether or not they come from a source.
-/

namespace LexisFront

/-- The name of a kind leads back to the kind. -/
theorem Kind.ofName?_name (kind : Kind) : ofName? kind.name = some kind := by
  have each : ∀ kind ∈ all, ofName? kind.name = some kind := by decide +kernel
  have member : kind ∈ all := by cases kind <;> decide
  exact each kind member

/-- Kinds have different names. -/
theorem Kind.name_injective : Function.Injective name := by
  intro kind other same
  have found := ofName?_name kind
  rw [same, ofName?_name] at found
  exact (Option.some.inj found).symm

namespace KindCounts

/-- The counts stand in the order of the names of their kinds, each kind once. -/
def Ordered (counts : KindCounts) : Prop :=
  counts.Pairwise fun left right => left.1.name < right.1.name

/-- The counts are the numbers of tokens of each kind, and a kind without tokens is absent. -/
structure Counts (counts : KindCounts) (tokens : List Token) : Prop where
  /-- Each kind stands once, where its name belongs. -/
  ordered : counts.Ordered
  /-- What is counted of a kind. -/
  lookup_eq : ∀ kind, counts.lookup kind =
    if tokens.countP (·.kind = kind) = 0 then none else some (tokens.countP (·.kind = kind))

variable {counts : KindCounts} {kind other : Kind} {count : Nat}

/-- The first count is that of its kind. -/
theorem lookup_cons (asked : Kind) :
    List.lookup asked ((other, count) :: counts) =
      if asked = other then some count else counts.lookup asked := by
  rw [List.lookup_cons]
  by_cases same : asked = other
  · rw [if_pos same, beq_iff_eq.2 same]
  · rw [if_neg same, beq_eq_false_iff_ne.2 same]

/-- A kind whose name comes before the first one comes before all. -/
theorem Ordered.name_lt (ordered : Ordered ((other, count) :: counts))
    (before : kind.name < other.name) :
    ∀ entry ∈ (other, count) :: counts, kind.name < entry.1.name := by
  intro entry member
  rcases List.mem_cons.1 member with rfl | later
  · exact before
  · exact before.trans ((List.pairwise_cons.1 ordered).1 entry later)

/-- A kind whose name comes before all is not counted. -/
theorem lookup_eq_none_of_name_lt (before : ∀ entry ∈ counts, kind.name < entry.1.name) :
    counts.lookup kind = none := by
  rw [List.lookup_eq_none_iff]
  intro entry member
  have apart : kind.name ≠ entry.1.name := ne_of_lt (before entry member)
  rw [bne_iff_ne]
  exact fun same => apart (congrArg Kind.name same)

/-- Of two kinds, the name of one comes before that of the other. -/
theorem name_lt_of_not_name_lt (different : other ≠ kind) (after : ¬ kind.name < other.name) :
    other.name < kind.name := by
  have apart : other.name ≠ kind.name := Kind.name_injective.ne different
  exact lt_of_le_of_ne (not_lt.1 after) apart

/-- Counting a token adds at most its own kind. -/
theorem mem_add {entry : Kind × Nat} (member : entry ∈ counts.add kind) :
    entry.1 = kind ∨ entry ∈ counts := by
  fun_induction add counts kind with
  | case1 =>
    obtain rfl := List.mem_singleton.1 member
    exact .inl rfl
  | case2 count rest =>
    rcases List.mem_cons.1 member with rfl | later
    · exact .inl rfl
    · exact .inr (List.mem_cons_of_mem _ later)
  | case3 other count rest different before =>
    rcases List.mem_cons.1 member with rfl | later
    · exact .inl rfl
    · exact .inr later
  | case4 other count rest different after ih =>
    rcases List.mem_cons.1 member with rfl | later
    · exact .inr List.mem_cons_self
    · exact (ih later).imp_right (List.mem_cons_of_mem _)

/-- Counting a token keeps the order. -/
theorem Ordered.add (ordered : counts.Ordered) (kind : Kind) : Ordered (counts.add kind) := by
  fun_induction KindCounts.add counts kind with
  | case1 => exact List.pairwise_singleton _ _
  | case2 count rest => exact List.pairwise_cons.2 (List.pairwise_cons.1 ordered)
  | case3 other count rest different before =>
    exact List.pairwise_cons.2 ⟨ordered.name_lt before, ordered⟩
  | case4 other count rest different after ih =>
    obtain ⟨first, later⟩ := List.pairwise_cons.1 ordered
    refine List.pairwise_cons.2 ⟨?_, ih later⟩
    intro entry member
    rcases mem_add member with rfl | old
    · exact name_lt_of_not_name_lt different after
    · exact first entry old

/-- Counting a token raises the count of its kind, from nothing if it is absent, and no other. -/
theorem Ordered.lookup_add (ordered : counts.Ordered) (kind asked : Kind) :
    (counts.add kind).lookup asked =
      if asked = kind then some ((counts.lookup kind).getD 0 + 1) else counts.lookup asked := by
  fun_induction KindCounts.add counts kind with
  | case1 => by_cases same : asked = kind <;> simp [lookup_cons, same]
  | case2 count rest => by_cases same : asked = kind <;> simp [lookup_cons, same]
  | case3 other count rest different before =>
    -- Only the order tells that the kind does not stand further on.
    have absent := lookup_eq_none_of_name_lt (ordered.name_lt before)
    rw [absent, lookup_cons]
    rfl
  | case4 other count rest different after ih =>
    have later := ih (List.pairwise_cons.1 ordered).2
    have kept : List.lookup kind ((other, count) :: rest) = rest.lookup kind := by
      rw [lookup_cons, if_neg (Ne.symm different)]
    rw [kept, lookup_cons, lookup_cons, later]
    by_cases first : asked = other
    · rw [if_pos first, if_pos first, if_neg (first ▸ different)]
    · rw [if_neg first, if_neg first]

/-- Nothing is counted before there are tokens. -/
theorem Counts.nil : Counts [] [] :=
  ⟨.nil, fun _ => rfl⟩

/-- Counting a token counts the tokens up to that one. -/
theorem Counts.add {tokens : List Token} (counted : counts.Counts tokens) (token : Token) :
    Counts (counts.add token.kind) (tokens ++ [token]) := by
  refine ⟨counted.ordered.add token.kind, fun kind => ?_⟩
  rw [counted.ordered.lookup_add, counted.lookup_eq, counted.lookup_eq, List.countP_append]
  by_cases same : kind = token.kind
  · subst same
    by_cases none : tokens.countP (·.kind = token.kind) = 0 <;> simp [none]
  · simp [same, Ne.symm same]

end KindCounts

end LexisFront
