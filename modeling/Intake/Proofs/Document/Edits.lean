import Intake.Proofs.Build.Enrichment

/-!
# Documents under pushes and clears

A document that is pushed to and cleared in any order is, after every step, the ordered multimap of
the pushes since the last clear that are not blank (`Document.editAll_isMultimapOf`). What a reader
of the document could ask is answered from those pushes alone: the names, the values of a name, the
aggregate text, and whether one more push would change anything.

`Holds` says what the names and values are. It does not say which field an entry stands for when
fields of one name differ; that is the one of the first push (`firstField?`), and `Records` adds it
to the invariant.
-/

namespace Intake

open Intake.Schema

/-! ## Edits -/

/-- What can be done to a document. -/
inductive Edit where
  | push (field : Field) (value : String)
  | clear

/-- The field and value of a push. -/
def Edit.push? : Edit → Option (Field × String)
  | .push field value => some (field, value)
  | .clear => none

/-- The pushes after the last clear. -/
def pushesSinceClear (edits : List Edit) : List (Field × String) :=
  (edits.reverse.takeWhile fun edit => edit.push?.isSome).reverse.filterMap Edit.push?

@[simp] theorem pushesSinceClear_append_clear (edits : List Edit) :
    pushesSinceClear (edits ++ [.clear]) = [] := by
  simp [pushesSinceClear, Edit.push?]

@[simp] theorem pushesSinceClear_append_push (edits : List Edit) (field : Field) (value : String) :
    pushesSinceClear (edits ++ [.push field value]) =
      pushesSinceClear edits ++ [(field, value)] := by
  simp [pushesSinceClear, Edit.push?]

/-! ## First definitions -/

/-- The field that the first push for a name came with. -/
def firstField? (pushes : List (Field × String)) (name : String) : Option Field :=
  (pushes.find? fun push => push.1.name == name).map Prod.fst

/-- Is the field of the first push for a name an aggregated one? -/
def isAggregatedName (pushes : List (Field × String)) (name : String) : Bool :=
  (firstField? pushes name).any Field.isAggregated

/-- The values of the names whose first field is aggregated, in the order of the names. -/
def aggregatedValues (pushes : List (Field × String)) : List String :=
  ((pushedNames pushes).filter (isAggregatedName pushes)).flatMap (pushedValues pushes)

theorem firstField?_append_of_eq_some {pushes : List (Field × String)} {name : String}
    {field : Field} (known : firstField? pushes name = some field)
    (later : List (Field × String)) : firstField? (pushes ++ later) name = some field := by
  obtain ⟨push, found, rfl⟩ := Option.map_eq_some_iff.mp known
  simp [firstField?, List.find?_append, found]

theorem firstField?_append_self {pushes : List (Field × String)} {field : Field}
    (fresh : field.name ∉ pushedNames pushes) (value : String) :
    firstField? (pushes ++ [(field, value)]) field.name = some field := by
  have none_before : pushes.find? (fun push => push.1.name == field.name) = none := by
    rw [List.find?_eq_none]
    intro push mem same
    exact fresh (List.mem_eraseDups.mpr (List.mem_map.mpr ⟨push, mem, beq_iff_eq.mp same⟩))
  simp [firstField?, List.find?_append, none_before]

namespace Document

/-! ## Runs of edits -/

/-- Does one thing to a document. -/
def edit (doc : Document) : Edit → Document
  | .push field value => (doc.push field value).1
  | .clear => doc.clear

/-- Does some things to a document, one after the other. -/
def editAll (doc : Document) (edits : List Edit) : Document := edits.foldl edit doc

@[simp] theorem editAll_append_singleton (doc : Document) (edits : List Edit) (last : Edit) :
    doc.editAll (edits ++ [last]) = (doc.editAll edits).edit last := by
  simp [editAll]

/-! ## The invariant -/

/-- The document holds what the pushes amount to, and each entry stands for the field of the first
push for its name. -/
structure Records (doc : Document) (pushes : List (Field × String)) : Prop extends
    doc.Holds pushes where
  first_fields : ∀ entry ∈ doc.entries, firstField? pushes entry.field.name = some entry.field

theorem empty_records : empty.Records [] where
  toHolds := empty_holds
  first_fields := by
    intro entry mem
    cases mem

/-- **One push keeps the fields.** An entry never changes its field, and a new entry stands for a
name that has not come up. -/
theorem Records.push {doc : Document} {pushes : List (Field × String)} (h : doc.Records pushes)
    (field : Field) {value : String} (visible : Text.isBlankText value = false) :
    (doc.push field value).1.Records (pushes ++ [(field, value)]) where
  toHolds := h.toHolds.push field visible
  first_fields := by
    have kept : ∀ entry ∈ doc.entries,
        firstField? (pushes ++ [(field, value)]) entry.field.name = some entry.field := by
      intro entry mem
      exact firstField?_append_of_eq_some (h.first_fields entry mem) _
    rw [Document.push, if_neg (by simp [visible])]
    cases found : doc.positions.lookup field.name with
    | none =>
      have fresh := h.lookup_eq_none.mp found
      intro entry mem
      rcases List.mem_append.mp mem with old | new
      · exact kept entry old
      · rw [List.mem_singleton.mp new]
        exact firstField?_append_self fresh value
    | some position =>
      dsimp only
      split
      · exact kept
      · intro entry mem
        obtain ⟨i, i_lt, rfl⟩ := List.getElem_of_mem mem
        rw [List.length_modify] at i_lt
        have old := kept doc.entries[i] (List.getElem_mem i_lt)
        rw [List.getElem_modify]
        split
        · exact old
        · exact old

/-- **One edit.** A clear leaves nothing behind, and a blank push nothing new. -/
theorem Records.edit {doc : Document} {edits : List Edit}
    (h : doc.Records (stored (pushesSinceClear edits))) (last : Edit) :
    (doc.edit last).Records (stored (pushesSinceClear (edits ++ [last]))) := by
  cases last with
  | clear =>
    rw [pushesSinceClear_append_clear]
    exact empty_records
  | push field value =>
    rw [pushesSinceClear_append_push]
    cases blank : Text.isBlankText value with
    | true =>
      have skipped : stored (pushesSinceClear edits ++ [(field, value)]) =
          stored (pushesSinceClear edits) := by simp [stored, blank]
      rw [skipped, Document.edit, doc.push_of_isBlankText field blank]
      exact h
    | false =>
      have added : stored (pushesSinceClear edits ++ [(field, value)]) =
          stored (pushesSinceClear edits) ++ [(field, value)] := by simp [stored, blank]
      rw [added]
      exact h.push field blank

/-- **All edits.** After any edits, the document records the pushes since the last clear that are
not blank. -/
theorem editAll_records (edits : List Edit) :
    (empty.editAll edits).Records (stored (pushesSinceClear edits)) := by
  induction edits using List.reverseRec with
  | nil => exact empty_records
  | append_singleton edits last ih =>
    rw [editAll_append_singleton]
    exact ih.edit last

theorem stored_visible (pushes : List (Field × String)) :
    ∀ push ∈ stored pushes, Text.isBlankText push.2 = false := by
  intro push mem
  simpa using (List.mem_filter.mp mem).2

/-! ## What a reader of the document can ask -/

variable {doc : Document} {pushes : List (Field × String)}

/-- The pair of an entry is its name with the values that were pushed for it. -/
theorem Holds.values_eq_of_mem (h : doc.Holds pushes) {entry : Entry} (mem : entry ∈ doc.entries) :
    entry.field.name ∈ pushedNames pushes ∧
      entry.values = pushedValues pushes entry.field.name := by
  have pair_mem : (entry.field.name, entry.values) ∈ doc.pairs := List.mem_map_of_mem mem
  rw [h.pairs_eq] at pair_mem
  obtain ⟨name, name_mem, same⟩ := List.mem_map.mp pair_mem
  obtain ⟨rfl, values_eq⟩ := Prod.mk.inj same
  exact ⟨name_mem, values_eq.symm⟩

theorem Holds.contains_iff (h : doc.Holds pushes) (name : String) :
    doc.contains name = true ↔ name ∈ pushedNames pushes := by
  rw [contains, ← Option.ne_none_iff_isSome, Ne, h.lookup_eq_none, not_not]

theorem Holds.size_eq (h : doc.Holds pushes) : doc.size = (pushedNames pushes).length := by
  rw [← h.names_eq, names, List.length_map, size]

theorem Holds.isEmpty_iff (h : doc.Holds pushes) : doc.isEmpty = true ↔ pushes = [] := by
  have same : doc.isEmpty = pushes.isEmpty := by
    calc doc.isEmpty = doc.names.isEmpty := by simp [Document.isEmpty, names]
      _ = pushes.isEmpty := by
        rw [h.names_eq, pushedNames, isEmpty_eraseDups, List.isEmpty_map]
  rw [same, List.isEmpty_iff]

/-- **The aggregated values** are those of the names whose first field is aggregated. -/
theorem Records.aggregated_eq (h : doc.Records pushes) :
    doc.aggregated = aggregatedValues pushes := by
  have flags : doc.entries.filter (fun entry => entry.field.isAggregated) =
      doc.entries.filter fun entry => isAggregatedName pushes entry.field.name := by
    refine List.filter_congr fun entry mem => ?_
    rw [isAggregatedName, h.first_fields entry mem, Option.any_some]
  have by_pairs : doc.aggregated =
      (doc.pairs.filter fun pair => isAggregatedName pushes pair.1).flatMap Prod.snd := by
    rw [aggregated, flags, pairs, List.filter_map, List.flatMap_map]
    rfl
  rw [by_pairs, h.pairs_eq, pushedPairs, List.filter_map, List.flatMap_map]
  rfl

/-! ## The aggregate text -/

theorem joinValues_cons_cons (first second : String) (rest : List String) :
    joinValues (first :: second :: rest) = joinValues ((first ++ " " ++ second) :: rest) := by
  cases rest with
  | nil => simp [joinValues, String.intercalate_cons_cons]
  | cons third rest => simp [joinValues, String.intercalate_cons_cons, String.append_assoc]

/-- After a text, every value is added with a space before it. -/
theorem foldl_appendValue_of_ne {buffer : String} (some_text : buffer ≠ "") (values : List String) :
    values.foldl appendValue buffer = joinValues (buffer :: values) := by
  induction values generalizing buffer with
  | nil => simp [joinValues]
  | cons value rest ih =>
    have longer : buffer ++ " " ++ value ≠ "" := by simp
    rw [List.foldl_cons, appendValue, if_neg some_text, ih longer, joinValues_cons_cons]

/-- A text and some values with single spaces between them; no text at all takes no place. -/
def joinOnto (buffer : String) (values : List String) : String :=
  if buffer = "" then joinValues values else joinValues (buffer :: values)

/-- **The aggregated values are appended** to the text that is there already. -/
theorem Records.appendAggregate_eq (h : doc.Records pushes)
    (visible : ∀ push ∈ pushes, Text.isBlankText push.2 = false) (buffer : String) :
    doc.appendAggregate buffer = joinOnto buffer (aggregatedValues pushes) := by
  rw [appendAggregate, joinOnto]
  split
  · next nothing =>
    rw [nothing, foldl_appendValue (h.aggregated_visible visible), h.aggregated_eq]
  · next something => rw [foldl_appendValue_of_ne something, h.aggregated_eq]

/-! ## What a push answers -/

theorem modify_add_ne {entries : List Entry} {position : Nat} (inside : position < entries.length)
    (value : String) : entries.modify position (·.add value) ≠ entries := by
  intro same
  have here := congrArg (fun entries => (entries[position]?).map Entry.values) same
  simp [List.getElem?_eq_getElem inside, Entry.add] at here

/-- **A push answers whether it changed the document.** -/
theorem Indexed.push_snd_iff (h : doc.Indexed) (field : Field) (value : String) :
    (doc.push field value).2 = true ↔ (doc.push field value).1 ≠ doc := by
  rw [push]
  split
  · simp
  · cases found : doc.positions.lookup field.name with
    | none =>
      have longer : doc.addEntry field value ≠ doc := by
        intro same
        have length_eq := congrArg (fun doc => doc.entries.length) same
        simp [Document.addEntry] at length_eq
      simpa using longer
    | some position =>
      dsimp only
      split
      · simp
      · have inside : position < doc.entries.length := by
          have here := (h field.name position).mp found
          have in_names := (List.getElem?_eq_some_iff.mp here).1
          simpa [names] using in_names
        have changed : ({ doc with entries := doc.entries.modify position (·.add value) } :
            Document) ≠ doc := by
          intro same
          exact modify_add_ne inside value (congrArg Document.entries same)
        simpa using changed

/-! ## Ordered multimaps -/

/-- The document is the ordered multimap of some pushes, and its parts are in step. -/
structure IsMultimapOf (doc : Document) (pushes : List (Field × String)) : Prop where
  names_nodup : doc.names.Nodup
  /-- The index maps the names to the places of their entries, and nothing else. -/
  indexed : ∀ name position,
    doc.positions.lookup name = some position ↔ doc.names[position]? = some name
  entries_proper : ∀ entry ∈ doc.entries,
    entry.values ≠ [] ∧ entry.values.Nodup ∧ ∀ value ∈ entry.values, Text.isBlankText value = false
  names_eq : doc.names = pushedNames pushes
  get?_eq : ∀ name,
    doc.get? name = if pushedValues pushes name = [] then none else some (pushedValues pushes name)
  first?_eq : ∀ name, doc.first? name = (pushedValues pushes name).head?
  contains_iff : ∀ name, doc.contains name = true ↔ name ∈ pushedNames pushes
  size_eq : doc.size = (pushedNames pushes).length
  isEmpty_iff : doc.isEmpty = true ↔ pushes = []
  appendAggregate_eq : ∀ buffer,
    doc.appendAggregate buffer = joinOnto buffer (aggregatedValues pushes)
  push_answers : ∀ field value,
    (doc.push field value).2 = true ↔ (doc.push field value).1 ≠ doc

theorem Holds.get?_eq_values (h : doc.Holds pushes) (name : String) :
    doc.get? name =
      if pushedValues pushes name = [] then none else some (pushedValues pushes name) := by
  rw [h.get?_eq]
  by_cases known : name ∈ pushedNames pushes
  · rw [if_pos known, if_neg (pushedValues_ne_nil known)]
  · rw [if_neg known, if_pos (pushedValues_of_not_mem known)]

/-- What records visible pushes is their multimap. -/
theorem Records.isMultimapOf (h : doc.Records pushes)
    (visible : ∀ push ∈ pushes, Text.isBlankText push.2 = false) : doc.IsMultimapOf pushes where
  names_nodup := h.indexed.nodup
  indexed := h.indexed
  entries_proper := by
    intro entry mem
    obtain ⟨name_mem, values_eq⟩ := h.values_eq_of_mem mem
    rw [values_eq]
    refine ⟨pushedValues_ne_nil name_mem, nodup_eraseDups _, ?_⟩
    intro value value_mem
    obtain ⟨push, pushed, -, rfl⟩ := mem_pushedValues.mp value_mem
    exact visible push pushed
  names_eq := h.names_eq
  get?_eq := h.get?_eq_values
  first?_eq := h.first?_eq
  contains_iff := h.contains_iff
  size_eq := h.size_eq
  isEmpty_iff := h.isEmpty_iff
  appendAggregate_eq := h.appendAggregate_eq visible
  push_answers := h.indexed.push_snd_iff

/-- **A document is an ordered multimap.** After any pushes and clears, with any fields and any
texts, it is the multimap of the pushes since the last clear that are not blank. -/
theorem editAll_isMultimapOf (edits : List Edit) :
    (empty.editAll edits).IsMultimapOf (stored (pushesSinceClear edits)) :=
  (editAll_records edits).isMultimapOf (stored_visible _)

end Document

end Intake
