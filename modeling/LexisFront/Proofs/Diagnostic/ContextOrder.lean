import LexisFront.Diagnostic.Event
import LexisFront.Proofs.Text.ByteOrder
import Mathlib.Data.List.Induction

/-!
# Details in any order

The details of an event form a map: a later value of a name replaces an earlier one, and in which
order a map gives its entries has no meaning. Nothing of that shows in what is written for an event.
Both renderings list each name once, in the order of the bytes of the names, with the last value
that the name was given. Such a list is determined by the last values alone, so two ways to attach
details that leave the same last values are written alike, whatever the order of the entries.

The entries that attaching details leaves are described by their last values, one detail after the
other. Sorting them gives the list.
-/

namespace LexisFront

namespace Context

/-- The last value that details give a name. -/
def last? (details : List (String × String)) (name : String) : Option String :=
  details.reverse.lookup name

/-- No name has two entries. -/
def IsMap (context : Context) : Prop :=
  (context.map Prod.fst).Nodup

instance (context : Context) : Decidable context.IsMap :=
  inferInstanceAs (Decidable (context.map Prod.fst).Nodup)

/-- The last detail decides about its own name and about no other. -/
theorem last?_concat (details : List (String × String)) (other value name : String) :
    last? (details ++ [(other, value)]) name =
      if name = other then some value else last? details name := by
  rw [last?, List.reverse_append, List.reverse_singleton, List.singleton_append, List.lookup_cons]
  by_cases same : name = other
  · rw [if_pos same, beq_iff_eq.2 same]
  · rw [if_neg same, beq_eq_false_iff_ne.2 same]
    rfl

/-- A map has the last values of details: one entry for each name that the details give. -/
structure Keeps (context : Context) (details : List (String × String)) : Prop where
  /-- No name has two entries. -/
  isMap : context.IsMap
  /-- The entry of a name has its last value. -/
  mem_iff : ∀ name value, (name, value) ∈ context ↔ last? details name = some value

/-- A map has the last values of its own entries. -/
theorem IsMap.keeps {context : Context} (isMap : context.IsMap) : context.Keeps context := by
  refine ⟨isMap, ?_⟩
  induction context using List.reverseRecOn with
  | nil => simp [last?]
  | append_singleton context entry ih =>
    obtain ⟨other, old⟩ := entry
    rw [IsMap, List.map_append] at isMap
    obtain ⟨earlier, -, apart⟩ := List.nodup_append.1 isMap
    intro name value
    have others := ih earlier name value
    rw [last?_concat, List.mem_append, List.mem_singleton, Prod.mk.injEq]
    by_cases same : name = other
    · have absent : (name, value) ∉ context := fun member =>
        apart name (List.mem_map_of_mem member) other (by simp) same
      rw [if_pos same, Option.some.injEq]
      constructor
      · rintro (member | ⟨-, found⟩)
        · exact absurd member absent
        · exact found.symm
      · intro found
        exact .inr ⟨same, found.symm⟩
    · rw [if_neg same, ← others]
      simp [same]

/-- Setting a detail adds its name behind the others unless it is there. -/
theorem map_fst_insert (context : Context) (other new : String) :
    (context.insert other new).map Prod.fst =
      if other ∈ context.map Prod.fst then context.map Prod.fst
      else context.map Prod.fst ++ [other] := by
  induction context with
  | nil => simp [insert]
  | cons entry context ih =>
    obtain ⟨present, old⟩ := entry
    rw [insert]
    by_cases same : present = other
    · simp [same]
    · rw [if_neg same, List.map_cons, List.map_cons, ih]
      by_cases member : other ∈ context.map Prod.fst
      · rw [if_pos member, if_pos (List.mem_cons_of_mem _ member)]
      · have absent : other ∉ present :: context.map Prod.fst :=
          List.not_mem_cons_of_ne_of_not_mem (Ne.symm same) member
        rw [if_neg member, if_neg absent, List.cons_append]

/-- Setting a detail of a map leaves a map. -/
theorem IsMap.insert {context : Context} (isMap : context.IsMap) (other new : String) :
    (context.insert other new).IsMap := by
  rw [IsMap, map_fst_insert]
  by_cases member : other ∈ context.map Prod.fst
  · rw [if_pos member]
    exact isMap
  · rw [if_neg member, List.nodup_append]
    refine ⟨isMap, by simp, ?_⟩
    rintro name earlier last final rfl
    exact member (List.mem_singleton.1 final ▸ earlier)

/-- Setting a detail of a map changes the entry of its name and no other. -/
theorem mem_insert_iff {context : Context} (isMap : context.IsMap)
    (other new name value : String) :
    (name, value) ∈ context.insert other new ↔
      if name = other then value = new else (name, value) ∈ context := by
  induction context with
  | nil =>
    rw [insert, List.mem_singleton, Prod.mk.injEq]
    by_cases same : name = other
    · simp [same]
    · simp [same]
  | cons entry context ih =>
    obtain ⟨present, old⟩ := entry
    rw [IsMap, List.map_cons, List.nodup_cons] at isMap
    obtain ⟨fresh, later⟩ := isMap
    have others := ih later
    rw [insert]
    by_cases here : present = other
    · subst here
      rw [if_pos rfl, List.mem_cons, List.mem_cons, Prod.mk.injEq, Prod.mk.injEq]
      by_cases same : name = present
      · subst same
        have absent : (name, value) ∉ context := by
          intro member
          have named : name ∈ context.map Prod.fst := List.mem_map_of_mem member
          exact fresh named
        simp [absent]
      · simp [same]
    · rw [if_neg here, List.mem_cons, List.mem_cons, others, Prod.mk.injEq]
      by_cases same : name = other
      · simp [same, Ne.symm here]
      · simp [same]

/-- Setting a detail keeps the last values. -/
theorem Keeps.insert {context : Context} {details : List (String × String)}
    (keeps : context.Keeps details) (other new : String) :
    (context.insert other new).Keeps (details ++ [(other, new)]) := by
  refine ⟨keeps.isMap.insert other new, ?_⟩
  intro name value
  rw [mem_insert_iff keeps.isMap, last?_concat, keeps.mem_iff]
  by_cases same : name = other
  · rw [if_pos same, if_pos same, Option.some.injEq, eq_comm]
  · rw [if_neg same, if_neg same]

/-- The entries of a map may come in any order. -/
theorem Keeps.perm {context other : Context} {details : List (String × String)}
    (keeps : context.Keeps details) (order : other.Perm context) : other.Keeps details := by
  refine ⟨(order.map Prod.fst).nodup_iff.2 keeps.isMap, ?_⟩
  intro name value
  rw [order.mem_iff]
  exact keeps.mem_iff name value

/-- A list has the last values of details: each name once, by the order of the bytes of names. -/
structure Lists (listed : Context) (details : List (String × String)) : Prop where
  /-- The names stand in the order of their bytes. -/
  ordered : listed.Pairwise fun left right => Text.bytes left.1 < Text.bytes right.1
  /-- A name is listed with its last value. -/
  mem_iff : ∀ name value, (name, value) ∈ listed ↔ last? details name = some value

/-- The entries of a map in the order of their names list the last values. -/
theorem Keeps.lists_sorted {context : Context} {details : List (String × String)}
    (keeps : context.Keeps details) : context.sorted.Lists details := by
  have order : context.sorted.Perm context := List.mergeSort_perm _ _
  have ascending : context.sorted.Pairwise fun left right =>
      decide (left.1 ≤ right.1) = true := by
    apply List.pairwise_mergeSort
    · intro first second third lower upper
      exact decide_eq_true (le_trans (of_decide_eq_true lower) (of_decide_eq_true upper))
    · intro first second
      rw [Bool.or_eq_true, decide_eq_true_eq, decide_eq_true_eq]
      exact le_total first.1 second.1
  have distinct : context.sorted.Pairwise fun left right => left.1 ≠ right.1 :=
    List.pairwise_map.1 (keeps.perm order).isMap
  constructor
  · apply (ascending.and distinct).imp
    rintro left right ⟨atMost, different⟩
    exact Text.bytes_lt_of_lt (lt_of_le_of_ne (of_decide_eq_true atMost) different)
  · exact (keeps.perm order).mem_iff

/-- The last values determine their list. -/
theorem Lists.eq {listed other : Context} {details others : List (String × String)}
    (lists : listed.Lists details) (listsOther : other.Lists others)
    (same : ∀ name, last? details name = last? others name) : listed = other := by
  have members : ∀ entry, entry ∈ listed ↔ entry ∈ other := by
    rintro ⟨name, value⟩
    rw [lists.mem_iff, listsOther.mem_iff, same]
  have nodup {listed : Context}
      (ordered : listed.Pairwise fun left right => Text.bytes left.1 < Text.bytes right.1) :
      listed.Nodup := by
    apply ordered.imp
    rintro left right less rfl
    exact List.lt_irrefl _ less
  have order : listed.Perm other :=
    (List.perm_ext_iff_of_nodup (nodup lists.ordered) (nodup listsOther.ordered)).2 members
  refine order.eq_of_pairwise ?_ lists.ordered listsOther.ordered
  intro left right _ _ less greater
  exact absurd greater (List.lt_asymm less)

end Context

namespace Event

/-- The event without its details. -/
def bare (event : Event) : Event := { event with context := [] }

/-- What is written below an event for listed details. -/
def listing (listed : Context) : String :=
  if listed = [] then ""
  else "\n  Context:" ++
    String.join (listed.map fun detail => "\n    " ++ detail.1 ++ ": " ++ detail.2)

/-- What the structured value of an event has for listed details. -/
def listingFields (listed : Context) : List (String × Json) :=
  if listed = [] then []
  else [("context", .object (listed.map fun detail => (detail.1, .string detail.2)))]

/-- Attaching details changes the details and nothing else. -/
theorem bare_withDetails (event : Event) (details : List (String × String)) :
    (event.withDetails details).bare = event.bare := by
  induction details generalizing event with
  | nil => rfl
  | cons detail details ih => exact ih (event.withDetail detail.1 detail.2)

/-- Attaching details to an event leaves their last values. -/
theorem keeps_withDetails {event : Event} (isMap : event.context.IsMap)
    (details : List (String × String)) :
    (event.withDetails details).context.Keeps (event.context ++ details) := by
  induction details using List.reverseRecOn with
  | nil =>
    rw [List.append_nil]
    exact isMap.keeps
  | append_singleton details detail ih =>
    rw [withDetails, List.foldl_concat, ← List.append_assoc]
    exact ih.insert detail.1 detail.2

/-- Sorting entries leaves none only where there is none. -/
theorem sorted_eq_nil_iff (context : Context) : context.sorted = [] ↔ context.isEmpty = true := by
  have order : context.sorted.Perm context := List.mergeSort_perm _ _
  rw [List.isEmpty_iff]
  constructor
  · intro empty
    rw [empty] at order
    exact order.nil_eq.symm
  · rintro rfl
    exact order.eq_nil

/-- The text below an event lists the details in the order of their names. -/
theorem renderContext_eq_listing (context : Context) :
    renderContext context = listing context.sorted := by
  rw [renderContext, listing]
  by_cases empty : context.isEmpty = true
  · rw [if_pos empty, if_pos ((sorted_eq_nil_iff context).2 empty)]
  · rw [if_neg empty, if_neg (mt (sorted_eq_nil_iff context).1 empty)]
    rfl

/-- An event is written as without its details, and they follow in the order of their names. -/
theorem renderDetailed_eq (event : Event) :
    event.renderDetailed = event.bare.renderDetailed ++ listing event.context.sorted := by
  have bare : event.bare.renderDetailed ++ renderContext event.context = event.renderDetailed := by
    rw [renderDetailed, renderDetailed]
    have none : renderContext event.bare.context = "" := rfl
    rw [none, String.append_empty]
    rfl
  rw [← bare, renderContext_eq_listing]

/-- The structured value of an event has the fields of the event without its details, and they
follow in the order of their names. -/
theorem exists_toJson_eq (event : Event) :
    ∃ fields, event.bare.toJson = .object fields ∧ "context" ∉ fields.map Prod.fst ∧
      event.toJson = .object (fields ++ listingFields event.context.sorted) := by
  have details : (if event.context.isEmpty then []
      else [("context", Json.object (event.context.sorted.map fun detail =>
        (detail.1, .string detail.2)))]) = listingFields event.context.sorted := by
    rw [listingFields]
    by_cases empty : event.context.isEmpty = true
    · rw [if_pos empty, if_pos ((sorted_eq_nil_iff _).2 empty)]
    · rw [if_neg empty, if_neg (mt (sorted_eq_nil_iff _).1 empty)]
  refine ⟨_, congrArg Json.object (List.append_nil _), ?_, ?_⟩
  · obtain ⟨level, code, message, span, context⟩ := event
    cases level <;> cases span <;> simp [bare, isError]
  · rw [← details]
    rfl

/-- Details that leave the same last values are written alike, in whichever order a map gives its
entries. Each name is listed once, in the order of the bytes of the names, with its last value, and
everything else is written as for the event without details. -/
theorem renderings_independent_of_order (event : Event) (isMap : event.context.IsMap)
    (first second : List (String × String))
    (same : ∀ name, Context.last? (event.context ++ first) name =
      Context.last? (event.context ++ second) name)
    (left right : Context) (leftOrder : left.Perm (event.withDetails first).context)
    (rightOrder : right.Perm (event.withDetails second).context) :
    let shown := { event.withDetails first with context := left }
    let other := { event.withDetails second with context := right }
    shown.renderDetailed = other.renderDetailed ∧ shown.toJson = other.toJson ∧
      ∃ listed fields, Context.Lists listed (event.context ++ first) ∧
        shown.renderDetailed = event.bare.renderDetailed ++ listing listed ∧
        event.bare.toJson = .object fields ∧ "context" ∉ fields.map Prod.fst ∧
        shown.toJson = .object (fields ++ listingFields listed) := by
  intro shown other
  have lists : left.sorted.Lists (event.context ++ first) :=
    ((keeps_withDetails isMap first).perm leftOrder).lists_sorted
  have listsOther : right.sorted.Lists (event.context ++ second) :=
    ((keeps_withDetails isMap second).perm rightOrder).lists_sorted
  have listed : left.sorted = right.sorted := lists.eq listsOther same
  have bareShown : shown.bare = event.bare := bare_withDetails event first
  have bareOther : other.bare = event.bare := bare_withDetails event second
  have text : shown.renderDetailed = event.bare.renderDetailed ++ listing left.sorted := by
    rw [renderDetailed_eq, bareShown]
  have textOther : other.renderDetailed = event.bare.renderDetailed ++ listing right.sorted := by
    rw [renderDetailed_eq, bareOther]
  obtain ⟨fields, plain, absent, value⟩ := exists_toJson_eq shown
  obtain ⟨fieldsOther, plainOther, -, valueOther⟩ := exists_toJson_eq other
  rw [bareShown] at plain
  rw [bareOther, plain] at plainOther
  obtain rfl := Json.object.inj plainOther
  refine ⟨?_, ?_, left.sorted, fields, lists, text, plain, absent, value⟩
  · rw [text, textOther, listed]
  · rw [value, valueOther]
    exact congrArg (fun listed => Json.object (fields ++ listingFields listed)) listed

/-- The name with the accent has the larger bytes and so comes last, although it is attached first;
the first value of the other name is lost. Attaching the details the other way round, and reading
the entries backwards, changes neither rendering. -/
theorem renderings_independent_of_order_accent :
    let event := (error .unrecognizedToken "Unknown token").withDetail "index" "0"
    let first := [("é", "1"), ("z", "2"), ("z", "3")]
    let second := [("z", "3"), ("index", "0"), ("é", "1")]
    event.context.IsMap ∧
      (∀ name, Context.last? (event.context ++ first) name =
        Context.last? (event.context ++ second) name) ∧
      (event.withDetails first).renderDetailed =
        { event.withDetails second with
          context := (event.withDetails second).context.reverse }.renderDetailed ∧
      (event.withDetails first).toJson =
        { event.withDetails second with
          context := (event.withDetails second).context.reverse }.toJson ∧
      ∃ listed, Context.Lists listed (event.context ++ first) ∧
        ("z", "3") ∈ listed ∧ ("z", "2") ∉ listed ∧
        (event.withDetails first).renderDetailed =
          event.bare.renderDetailed ++ listing listed := by
  intro event first second
  have isMap : event.context.IsMap := by decide
  have same : ∀ name, Context.last? (event.context ++ first) name =
      Context.last? (event.context ++ second) name := by
    intro name
    show List.lookup name [("z", "3"), ("z", "2"), ("é", "1"), ("index", "0")] =
      List.lookup name [("é", "1"), ("index", "0"), ("z", "3"), ("index", "0")]
    by_cases last : name = "z"
    · subst last
      decide
    · by_cases accent : name = "é"
      · subst accent
        decide
      · simp only [List.lookup_cons, beq_eq_false_iff_ne.2 last, beq_eq_false_iff_ne.2 accent]
        cases name == "index" <;> rfl
  obtain ⟨texts, values, listed, -, lists, text, -⟩ := renderings_independent_of_order event isMap
    first second same _ _ (.refl _) (List.reverse_perm _)
  refine ⟨isMap, same, texts, values, listed, lists, ?_, ?_, text⟩
  · rw [lists.mem_iff]
    decide
  · rw [lists.mem_iff]
    decide

end Event

end LexisFront
