import Intake.Proofs.Binding.ReverseIndex
import Intake.Proofs.Build.Reuse
import Intake.Proofs.Build.Tolerance
import Intake.Proofs.Coercion.Idempotence
import Intake.Proofs.Document.Decoding
import Intake.Proofs.Document.Groups
import Intake.Proofs.Text.Cutting

/-!
# Lines that are built again

A builder that reads every field from the path of its own name can read what it writes. Its document
is pushed field by field, and so is that of its line: at the path of each field the line holds the
field's distinct values (`Tree.leavesAt_line`), each is coerced to itself, and distinct values in the
same order make the same document. So the line is built as the same line with the same id
(`Builder.build_line`).

The names must be keys, not paths of several keys, and none the number marker, which the reader would
not take for a key; and dates must have years of four digits, since others are written as texts that
no date field takes.
-/

namespace Intake

open Intake.Schema Intake.Calendar

/-! ## Bindings by name -/

namespace Binding

/-- Each of the fields is read from the path of its own name, and nothing else is. -/
structure ReadsByName (binding : Binding) (fields : List Field) : Prop where
  paths_eq : binding.paths = fields.map fun field => ⟨field.name, [field]⟩
  distinct : (fields.map (·.name)).Nodup

theorem declaredPaths_identity (identity : List String) :
    declaredPaths (declarations [] identity) = identity.eraseDups := by
  simp [declaredPaths, declarations, Function.comp_def]

theorem declaredNames_identity {identity : List String} {name : String} (mem : name ∈ identity) :
    declaredNames (declarations [] identity) name = [name] := by
  refine eraseDups_eq_singleton ?_ fun other other_mem => ?_
  · simpa [declarations] using mem
  · simp only [declarations, List.nil_append, List.mem_map, List.mem_filter] at other_mem
    obtain ⟨_, ⟨⟨n, -, rfl⟩, same⟩, rfl⟩ := other_mem
    exact beq_iff_eq.mp same

/-- Known names are those of fields, each of which is the definition of its name. -/
theorem exists_definitions {mapping : Mapping} (indexed : mapping.Indexed) {names : List String}
    (known : ∀ name ∈ names, mapping.contains name = true) :
    ∃ fields : List Field, fields.map (·.name) = names ∧
      names.map (fun name => PathBinding.mk name (mapping.definitions [name])) =
        fields.map fun field => ⟨field.name, [field]⟩ := by
  induction names with
  | nil => exact ⟨[], rfl, rfl⟩
  | cons name rest ih =>
    obtain ⟨here, later⟩ := List.forall_mem_cons.mp known
    obtain ⟨field, found⟩ := indexed.contains_iff_exists.mp here
    obtain ⟨fields, names_eq, paths_eq⟩ := ih later
    obtain ⟨-, rfl⟩ := indexed.get?_eq_some_iff.mp found
    have defined : mapping.definitions [field.name] = [field] := by
      simp [Mapping.definitions, found]
    exact ⟨field :: fields, by rw [List.map_cons, names_eq],
      by rw [List.map_cons, List.map_cons, defined, paths_eq]⟩

/-- **A binding of identity fields** reads by name: the fields are those of the distinct names. -/
theorem readsByName_of_derive {index : Index} {docType : String} {identity : List String}
    {binding : Binding} (derived : derive index docType [] identity = .ok binding) :
    ∃ fields, binding.ReadsByName fields ∧ fields.map (·.name) = identity.eraseDups := by
  obtain ⟨mapping, resolved, good, rfl⟩ := derive_eq_ok_iff.mp derived
  have known : ∀ name ∈ identity.eraseDups, mapping.contains name = true := by
    intro name mem
    have declared : (name, name) ∈ declarations [] identity := by
      simpa [declarations] using mem
    exact (good _ declared).1
  obtain ⟨fields, names_eq, paths_eq⟩ :=
    exists_definitions (index.sound.indexed_of_resolve resolved) known
  refine ⟨fields, ⟨?_, ?_⟩, names_eq⟩
  · show reverseIndex mapping (declarations [] identity) = _
    rw [reverseIndex, declaredPaths_identity, ← paths_eq]
    refine List.map_congr_left fun name mem => ?_
    rw [declaredNames_identity (List.mem_eraseDups.mp mem)]
  · rw [names_eq]
    exact nodup_eraseDups identity

variable {binding : Binding} {fields : List Field}

/-- A name without dots is a path of one key. -/
theorem pathSegments_of_undotted {name : String} (undotted : '.' ∉ name.toList) :
    pathSegments name = [name] := by
  rw [pathSegments, Text.splitAtEach_of_not_mem undotted, List.map_singleton, String.ofList_toList]

theorem ReadsByName.events_eq (h : binding.ReadsByName fields)
    (undotted : ∀ field ∈ fields, '.' ∉ field.name.toList) (tree : Tree) :
    binding.events tree =
      fields.flatMap fun field => (tree.leavesAt [field.name]).map fun leaf => ⟨leaf, field⟩ := by
  rw [events, h.paths_eq, List.flatMap_map]
  refine List.flatMap_congr fun field mem => ?_
  rw [PathBinding.segments, pathSegments_of_undotted (undotted field mem)]
  simp [List.map_eq_flatMap]

end Binding

/-! ## Reading a line -/

namespace Tree

theorem leavesAt_valuesToJson (values : List String) :
    (ofJson (Document.valuesToJson values)).leavesAt [] = values.map .scalar := by
  unfold Document.valuesToJson
  split
  · rfl
  · have item_leaves (value : String) :
        (reach [] (ofJson (.string value))).flatMap leaves = [.scalar value] := by
      rfl
    rw [ofJson, ofItems_eq_map, leavesAt, reach, reachItems_eq_flatMap, List.flatMap_assoc,
      List.map_map, List.flatMap_map, List.map_eq_flatMap]
    exact List.flatMap_congr fun value _ => item_leaves value

/-- **At the name of a field, a line holds the field's values**, whether as one value or in a
list. -/
theorem leavesAt_line (pairs : List (String × List String)) (name : String) :
    (ofJson (.object (pairs.map fun pair => (pair.1, Document.valuesToJson pair.2)))).leavesAt
      [name] = ((pairs.lookup name).getD []).map .scalar := by
  rw [ofJson, ofMembers_eq_map, leavesAt, reach, List.map_map]
  induction pairs with
  | nil => rfl
  | cons pair rest ih =>
    obtain ⟨key, values⟩ := pair
    rw [List.map_cons, Function.comp_apply, reachMember, List.lookup_cons]
    by_cases here : key = name
    · subst here
      rw [if_pos rfl, beq_self_eq_true]
      exact leavesAt_valuesToJson values
    · have other : (name == key) = false := beq_eq_false_iff_ne.mpr fun e => here e.symm
      rw [if_neg here, other]
      exact ih

end Tree

/-! ## Pushes -/

/-- The value of an event that has one. -/
def Event.value? (dates : DatePolicy) (event : Event) : Option String :=
  match event.outcome dates with
  | .ok value? => value?
  | .error _ => none

theorem Event.push?_eq_map (dates : DatePolicy) (event : Event) :
    event.push? dates = (event.value? dates).map fun value => (event.field, value) := by
  rw [push?, value?]
  cases event.outcome dates with
  | error error => rfl
  | ok value? => cases value? <;> rfl

/-- If the event reads a date, its year has four digits. -/
def Event.ReadsPlainDates (dates : DatePolicy) (event : Event) : Prop :=
  match event.leaf with
  | .scalar text => Intake.ReadsPlainDates dates event.field text
  | .handle _ => True

instance (dates : DatePolicy) : (event : Event) → Decidable (event.ReadsPlainDates dates)
  | ⟨.scalar text, field⟩ => inferInstanceAs (Decidable (ReadsPlainDates dates field text))
  | ⟨.handle _, _⟩ => .isTrue trivial

/-- The fields, each with the values that it takes from the tree. -/
def Tree.groups (dates : DatePolicy) (fields : List Field) (tree : Tree) :
    List (Field × List String) :=
  fields.map fun field =>
    (field, (tree.leavesAt [field.name]).filterMap fun leaf => Event.value? dates ⟨leaf, field⟩)

/-- Fields that are read by name are pushed in groups. -/
theorem filterMap_push?_eq (dates : DatePolicy) (fields : List Field) (tree : Tree) :
    (fields.flatMap fun field =>
      (tree.leavesAt [field.name]).map fun leaf => Event.mk leaf field).filterMap
        (Event.push? dates) = groupedPushes (tree.groups dates fields) := by
  rw [List.filterMap_flatMap, groupedPushes, Tree.groups, List.flatMap_map]
  refine List.flatMap_congr fun field _ => ?_
  rw [List.filterMap_map, List.map_filterMap]
  refine congrArg (List.filterMap · _) (funext fun leaf => ?_)
  exact Event.push?_eq_map dates ⟨leaf, field⟩

theorem eventPushes_eq_ok {dates : DatePolicy} {events : List Event}
    {pushes : List (Field × String)} (h : eventPushes dates events = .ok pushes) :
    events.filterMap (Event.push? dates) = pushes := by
  rw [eventPushes] at h
  split at h
  · cases h
  · exact Except.ok.inj h

/-- **Values that are coerced to themselves** are pushed as they are. -/
theorem eventPushes_of_stable {dates : DatePolicy} {pushes : List (Field × String)}
    (stable : ∀ push ∈ pushes, coerceText dates push.1 push.2 = .ok (some push.2)) :
    eventPushes dates (pushes.map fun push => ⟨.scalar push.2, push.1⟩) = .ok pushes := by
  induction pushes with
  | nil => rfl
  | cons push rest ih =>
    obtain ⟨here, later⟩ := List.forall_mem_cons.mp stable
    have outcome_eq : (Event.mk (.scalar push.2) push.1).outcome dates = .ok (some push.2) := here
    rw [List.map_cons, eventPushes_cons, outcome_eq, ih later]
    rfl

namespace Builder

/-- What comes of values by name: the line, and the first value of the identifying field. -/
def builtOf (idField : Option String) (pairs : List (String × List String)) : Built where
  id := idField.bind fun name => ((pairs.lookup name).getD []).head?
  line := (Json.object (pairs.map fun pair =>
    (pair.1, Document.valuesToJson pair.2))).text

theorem buildTree_of_no_enrichers (binding : Binding) (dates : DatePolicy)
    (idField : Option String) (tree : Tree) (scratch : Scratch) :
    ((Builder.mk binding [] dates idField).buildTree tree scratch).1 = do
      let pushes ← eventPushes dates (binding.events tree)
      return builtOf idField (pushedPairs pushes) := by
  rw [buildTree_eq]
  dsimp only
  cases pushes_eq : eventPushes dates (binding.events tree) with
  | error error => rfl
  | ok pushes =>
    have visible : ∀ push ∈ pushes, Text.isBlankText push.2 = false := by
      intro push mem
      rw [← eventPushes_eq_ok pushes_eq] at mem
      obtain ⟨event, -, found⟩ := List.mem_filterMap.mp mem
      exact Event.push?_visible found
    have holds := Document.pushAll_holds visible
    show Except.ok (Built.mk (idField.bind (Document.empty.pushAll pushes).first?)
      (Document.empty.pushAll pushes).line) = .ok (builtOf idField (pushedPairs pushes))
    rw [holds.line_eq, funext holds.first?_eq, builtOf]
    simp only [Document.lookup_pushedPairs]
    rfl

/-! ## Building a line -/

variable {binding : Binding} {fields : List Field} {dates : DatePolicy} {tree : Tree}
  {pushes : List (Field × String)}

/-- The dates that the fields of a binding read from a tree, and that are stored therefore, have
years of four digits. -/
def PlainDates (binding : Binding) (dates : DatePolicy) (tree : Tree) : Prop :=
  ∀ event ∈ binding.events tree, event.ReadsPlainDates dates

instance (binding : Binding) (dates : DatePolicy) (tree : Tree) :
    Decidable (PlainDates binding dates tree) :=
  inferInstanceAs (Decidable (∀ event ∈ binding.events tree, event.ReadsPlainDates dates))

/-- **What was pushed is coerced to itself.** -/
theorem stable_of_eventPushes (plain : PlainDates binding dates tree)
    (pushed : eventPushes dates (binding.events tree) = .ok pushes) :
    ∀ push ∈ pushes, coerceText dates push.1 push.2 = .ok (some push.2) := by
  intro push mem
  rw [← eventPushes_eq_ok pushed] at mem
  obtain ⟨event, occurs, found⟩ := List.mem_filterMap.mp mem
  obtain ⟨text, rfl, coerced⟩ := Event.push?_eq_some found
  exact coerceText_idempotent (plain _ occurs) coerced

/-- Every field has one group. -/
theorem nodup_groups (reads : binding.ReadsByName fields) (dates : DatePolicy) (tree : Tree) :
    ((tree.groups dates fields).map fun group => group.1.name).Nodup := by
  rw [Tree.groups, List.map_map]
  exact reads.distinct

/-- **The events of a line** are the distinct values, field by field. -/
theorem events_line (reads : binding.ReadsByName fields)
    (undotted : ∀ field ∈ fields, '.' ∉ field.name.toList)
    (pushes_eq : pushes = groupedPushes (tree.groups dates fields)) :
    binding.events (Tree.ofJson (pushedJson pushes)) =
      (groupedPushes (distinctGroups (tree.groups dates fields))).map fun push =>
        ⟨.scalar push.2, push.1⟩ := by
  rw [reads.events_eq undotted, groupedPushes, distinctGroups, Tree.groups, List.map_map,
    List.flatMap_map, List.map_flatMap]
  refine List.flatMap_congr fun field mem => ?_
  have leaves_eq : (Tree.ofJson (pushedJson pushes)).leavesAt [field.name] =
      (pushedValues pushes field.name).map .scalar := by
    rw [pushedJson, Tree.leavesAt_line, Document.lookup_pushedPairs]
  rw [leaves_eq, pushes_eq,
    pushedValues_groupedPushes (nodup_groups reads dates tree)
      (List.mem_map.mpr ⟨field, mem, rfl⟩), List.map_map, List.map_map]
  rfl

/-- **A line is built as itself.** If the binding reads by name, the names are keys and none is the
number marker, and the dates have plain years, the line that was built from a tree is built again
as the same line, with the same id. -/
theorem build_line (reads : binding.ReadsByName fields)
    (keys : ∀ field ∈ fields, '.' ∉ field.name.toList ∧ field.name ≠ Json.numberMarker)
    (plain : PlainDates binding dates tree) {idField : Option String} {scratch : Scratch}
    {built : Built}
    (h : ((Builder.mk binding [] dates idField).buildTree tree scratch).1 = .ok built) :
    (Builder.mk binding [] dates idField).build built.line = .ok built := by
  have undotted : ∀ field ∈ fields, '.' ∉ field.name.toList := fun field mem => (keys field mem).1
  rw [buildTree_of_no_enrichers] at h
  cases pushed : eventPushes dates (binding.events tree) with
  | error error => rw [pushed] at h; cases h
  | ok pushes =>
    rw [pushed] at h
    obtain rfl : builtOf idField (pushedPairs pushes) = built := Except.ok.inj h
    have pushes_eq : pushes = groupedPushes (tree.groups dates fields) := by
      rw [← eventPushes_eq_ok pushed, reads.events_eq undotted, filterMap_push?_eq]
    have stable := stable_of_eventPushes plain pushed
    have unmarked : ∀ push ∈ pushes, push.1.name ≠ Json.numberMarker := by
      intro push mem
      rw [pushes_eq] at mem
      obtain ⟨values, grouped, -⟩ := mem_groupedPushes.mp mem
      obtain ⟨field, field_mem, same⟩ := List.mem_map.mp grouped
      obtain ⟨rfl, -⟩ := Prod.mk.inj same
      exact (keys push.1 field_mem).2
    have read : Json.read (builtOf idField (pushedPairs pushes)).line = .ok (pushedJson pushes) :=
      Document.read_pushedJson (fun push mem => coerceText_visible (stable push mem)) unmarked
    -- the second time, the values of each field are distinct from the start
    have pushed_again : eventPushes dates (binding.events (Tree.ofJson (pushedJson pushes))) =
        .ok (groupedPushes (distinctGroups (tree.groups dates fields))) := by
      rw [events_line reads undotted pushes_eq]
      refine eventPushes_of_stable fun push mem => stable push ?_
      rw [pushes_eq]
      exact mem_groupedPushes_distinctGroups.mp mem
    have same_pairs : pushedPairs (groupedPushes (distinctGroups (tree.groups dates fields))) =
        pushedPairs pushes := by
      rw [pushedPairs_distinctGroups (nodup_groups reads dates tree), pushes_eq]
    rw [build, buildText, read]
    dsimp only
    rw [buildTree_of_no_enrichers, pushed_again]
    exact congrArg (fun pairs => Except.ok (builtOf idField pairs)) same_pairs

/-- **Building a built line is a fixpoint.** A builder without enrichers that reads identity fields
only, however often a field is listed, whose names are keys and not the number marker, under any
policy for dates and with any identifying field: if it builds a source text, and the dates that are
stored have years of four digits, it builds the line again, on any scratch, to the same line and the
same id. -/
theorem buildText_line {index : Index} {docType : String} {identity : List String}
    {binding : Binding} (derived : Binding.derive index docType [] identity = .ok binding)
    (keys : ∀ name ∈ identity, '.' ∉ name.toList ∧ name ≠ Json.numberMarker)
    {dates : DatePolicy} {idField : Option String} {source : String} {scratch : Scratch}
    {built : Built}
    (h : ((Builder.mk binding [] dates idField).buildText source scratch).1 = .ok built)
    (plain : ∀ value, Json.read source = .ok value → PlainDates binding dates (Tree.ofJson value))
    (again : Scratch) :
    ((Builder.mk binding [] dates idField).buildText built.line again).1 = .ok built := by
  obtain ⟨fields, reads, names_eq⟩ := Binding.readsByName_of_derive derived
  have field_keys : ∀ field ∈ fields, '.' ∉ field.name.toList ∧ field.name ≠ Json.numberMarker := by
    intro field mem
    have listed : field.name ∈ identity.eraseDups := names_eq ▸ List.mem_map.mpr ⟨field, mem, rfl⟩
    exact keys field.name (List.mem_eraseDups.mp listed)
  rw [buildText] at h
  cases read : Json.read source with
  | error refusal => rw [read] at h; cases h
  | ok value =>
    rw [read] at h
    rw [buildText_fst]
    exact build_line reads field_keys (plain value read) h

/-- The mapping of journal entries. -/
def entryMapping : Mapping where
  name := "entry"
  fields :=
    [Field.ofType "tags" .keyword, Field.ofType "made" .date, Field.ofType "seen" .boolean,
      Field.ofType "pages" .integer]
  positions := [("tags", 0), ("made", 1), ("seen", 2), ("pages", 3)]

/-- An index of journal entries. -/
def journalIndex : Index := (Index.empty "journal").withMapping entryMapping rfl

/-- What is read of an entry; the tags are listed twice. -/
def entryFields : List String := ["tags", "made", "tags", "seen", "pages"]

/-- The binding of these fields. -/
def entryBinding : Binding :=
  ⟨"journal", "entry", reverseIndex entryMapping (Binding.declarations [] entryFields)⟩

/-- A builder of entries. -/
def entryBuilder : Builder := ⟨entryBinding, [], .textOnly, some "tags"⟩

/-- An entry whose values are written in their own ways. -/
def entrySource : String :=
  "\x7b\"pages\": 7, \"seen\": \"Yes\", \"tags\": [\" b \", [\"a\", \"b\"]], " ++
    "\"made\": \"1969-07-20T22:17:40.123456+02:00\"\x7d"

/-- What is built from it. -/
def entryBuilt : Built where
  id := some "b"
  line := "\x7b\"tags\":[\"b\",\"a\"],\"made\":\"1969-07-20T20:17:40.123Z\"," ++
    "\"seen\":\"true\",\"pages\":\"7\"\x7d"

/-- The line of an entry is built as itself: its tags, its date, its truth value and its number. -/
theorem buildText_line_entry :
    Binding.derive journalIndex "entry" [] entryFields = .ok entryBinding ∧
      (entryBuilder.buildText entrySource Scratch.empty).1 = .ok entryBuilt ∧
      (entryBuilder.buildText entryBuilt.line Scratch.empty).1 = .ok entryBuilt := by
  have derived : Binding.derive journalIndex "entry" [] entryFields =
      .ok entryBinding := by
    rfl
  have built : (entryBuilder.buildText entrySource Scratch.empty).1 = .ok entryBuilt :=
    eq_ok_of_toOption (by decide +kernel)
  have plain : ∀ value, Json.read entrySource = .ok value →
      PlainDates entryBinding .textOnly (Tree.ofJson value) := by
    have checked : ((Json.read entrySource).toOption.all fun value =>
        decide (PlainDates entryBinding .textOnly (Tree.ofJson value))) = true := by
      decide +kernel
    intro value read
    rw [read] at checked
    exact of_decide_eq_true checked
  exact ⟨derived, built, buildText_line derived (by decide) built plain _⟩

end Builder

end Intake
