import Intake.Document
import Intake.Proofs.Distinct

/-!
# Documents as ordered multimaps

A document is built by pushes. What it holds afterwards is a function of the pushes alone: the names
in the order of their first push, each with its distinct values in the order of theirs
(`pushedPairs`). `Document.Holds` ties a document to the pushes behind it; one push keeps it
(`Document.Holds.push`), and so do all of them (`Document.pushAll_holds`).

The index by name takes part in the invariant: a push trusts the place it finds there, so every name
has to be found at the place of its own entry and nowhere else.
-/

namespace Intake

open Intake.Schema

/-! ## What a list of pushes amounts to -/

/-- The names that are pushed to, by their first push. -/
def pushedNames (pushes : List (Field × String)) : List String :=
  (pushes.map fun push => push.1.name).eraseDups

/-- The distinct values that are pushed for a name, by their first push. -/
def pushedValues (pushes : List (Field × String)) (name : String) : List String :=
  ((pushes.filter fun push => push.1.name == name).map fun push => push.2).eraseDups

/-- The names that are pushed to, each with its values. -/
def pushedPairs (pushes : List (Field × String)) : List (String × List String) :=
  (pushedNames pushes).map fun name => (name, pushedValues pushes name)

/-- The JSON value that pushes amount to. -/
def pushedJson (pushes : List (Field × String)) : Json :=
  .object ((pushedPairs pushes).map fun pair => (pair.1, Document.valuesToJson pair.2))

theorem pushedNames_append_singleton (pushes : List (Field × String)) (field : Field)
    (value : String) :
    pushedNames (pushes ++ [(field, value)]) =
      if field.name ∈ pushedNames pushes then pushedNames pushes
      else pushedNames pushes ++ [field.name] := by
  rw [pushedNames, List.map_append, List.map_singleton, eraseDups_append_singleton]
  rfl

theorem pushedValues_append_self (pushes : List (Field × String)) (field : Field)
    (value : String) :
    pushedValues (pushes ++ [(field, value)]) field.name =
      if value ∈ pushedValues pushes field.name then pushedValues pushes field.name
      else pushedValues pushes field.name ++ [value] := by
  have last : [(field, value)].filter (fun push => push.1.name == field.name) =
      [(field, value)] := by simp
  rw [pushedValues, List.filter_append, last, List.map_append, List.map_singleton,
    eraseDups_append_singleton]
  rfl

theorem pushedValues_append_of_ne {field : Field} {name : String} (pushes : List (Field × String))
    (value : String) (ne : name ≠ field.name) :
    pushedValues (pushes ++ [(field, value)]) name = pushedValues pushes name := by
  have last : [(field, value)].filter (fun push => push.1.name == name) = [] := by
    simpa using fun e => ne e.symm
  rw [pushedValues, List.filter_append, last, List.append_nil]
  rfl

/-- A name that is not pushed to has no values. -/
theorem pushedValues_of_not_mem {pushes : List (Field × String)} {name : String}
    (h : name ∉ pushedNames pushes) : pushedValues pushes name = [] := by
  have none_left : pushes.filter (fun push => push.1.name == name) = [] := by
    rw [List.filter_eq_nil_iff]
    intro push member same
    refine h (List.mem_eraseDups.mpr (List.mem_map.mpr ⟨push, member, ?_⟩))
    exact beq_iff_eq.mp same
  rw [pushedValues, none_left]
  rfl

theorem mem_pushedValues {pushes : List (Field × String)} {name value : String} :
    value ∈ pushedValues pushes name ↔ ∃ push ∈ pushes, push.1.name = name ∧ push.2 = value := by
  rw [pushedValues, List.mem_eraseDups, List.mem_map]
  constructor
  · rintro ⟨push, member, value_eq⟩
    obtain ⟨pushed, same⟩ := List.mem_filter.mp member
    exact ⟨push, pushed, beq_iff_eq.mp same, value_eq⟩
  · rintro ⟨push, pushed, same, value_eq⟩
    exact ⟨push, List.mem_filter.mpr ⟨pushed, beq_iff_eq.mpr same⟩, value_eq⟩

/-- A name that is pushed to has a value. -/
theorem pushedValues_ne_nil {pushes : List (Field × String)} {name : String}
    (h : name ∈ pushedNames pushes) : pushedValues pushes name ≠ [] := by
  obtain ⟨push, member, same⟩ := List.mem_map.mp (List.mem_eraseDups.mp h)
  exact List.ne_nil_of_mem (mem_pushedValues.mpr ⟨push, member, same, rfl⟩)

/-! ## The invariant -/

namespace Document

/-- The names and values of a document in order. -/
def pairs (doc : Document) : List (String × List String) :=
  doc.entries.map fun entry => (entry.field.name, entry.values)

/-- The index finds every name at the place of its entry, and finds no other name. -/
def Indexed (doc : Document) : Prop := IsIndexOf doc.positions doc.names

/-- The document holds what the pushes amount to, and its index is right. -/
structure Holds (doc : Document) (pushes : List (Field × String)) : Prop where
  indexed : doc.Indexed
  pairs_eq : doc.pairs = pushedPairs pushes

theorem empty_holds : empty.Holds [] where
  indexed := .nil
  pairs_eq := rfl

theorem map_fst_pairs (doc : Document) : doc.pairs.map Prod.fst = doc.names := by
  simp [pairs, names]

theorem Holds.names_eq {doc : Document} {pushes : List (Field × String)} (h : doc.Holds pushes) :
    doc.names = pushedNames pushes := by
  rw [← map_fst_pairs, h.pairs_eq, pushedPairs, List.map_map]
  exact List.map_id _

/-- The values at the place of a name are those that were pushed for it. -/
theorem Holds.valuesAt_eq {doc : Document} {pushes : List (Field × String)} (h : doc.Holds pushes)
    {name : String} {position : Nat} (at_position : doc.names[position]? = some name) :
    doc.valuesAt position = pushedValues pushes name := by
  have here : doc.pairs[position]? = some (name, pushedValues pushes name) := by
    rw [h.pairs_eq, pushedPairs, List.getElem?_map, ← h.names_eq, at_position]
    rfl
  rw [pairs, List.getElem?_map, Option.map_eq_some_iff] at here
  obtain ⟨entry, found, pair⟩ := here
  rw [valuesAt, found]
  exact (Prod.mk.inj pair).2

theorem Holds.lookup_eq_none {doc : Document} {pushes : List (Field × String)}
    (h : doc.Holds pushes) {name : String} :
    doc.positions.lookup name = none ↔ name ∉ pushedNames pushes := by
  rw [← h.names_eq]
  exact h.indexed.lookup_eq_none_iff

/-- **The values of a name** are those that were pushed for it. -/
theorem Holds.get?_eq {doc : Document} {pushes : List (Field × String)} (h : doc.Holds pushes)
    (name : String) :
    doc.get? name =
      if name ∈ pushedNames pushes then some (pushedValues pushes name) else none := by
  rw [get?]
  cases found : doc.positions.lookup name with
  | none => rw [if_neg (h.lookup_eq_none.mp found)]; rfl
  | some position =>
    have here := (h.indexed name position).mp found
    have member : name ∈ pushedNames pushes := by
      rw [← h.names_eq]
      exact List.mem_iff_getElem?.mpr ⟨position, here⟩
    rw [if_pos member, Option.map_some, h.valuesAt_eq here]

theorem Holds.first?_eq {doc : Document} {pushes : List (Field × String)} (h : doc.Holds pushes)
    (name : String) : doc.first? name = (pushedValues pushes name).head? := by
  rw [first?, h.get?_eq]
  split
  · rfl
  · next absent => rw [pushedValues_of_not_mem absent]; rfl

theorem Holds.toJson_eq {doc : Document} {pushes : List (Field × String)} (h : doc.Holds pushes) :
    doc.toJson = pushedJson pushes := by
  rw [toJson, pushedJson, ← h.pairs_eq, pairs, List.map_map]
  rfl

/-- **The line of a document** is the text of what was pushed. -/
theorem Holds.line_eq {doc : Document} {pushes : List (Field × String)} (h : doc.Holds pushes) :
    doc.line = (pushedJson pushes).text := by
  rw [line, h.toJson_eq]

/-! ## One push -/

theorem names_addEntry (doc : Document) (field : Field) (value : String) :
    (doc.addEntry field value).names = doc.names ++ [field.name] := by
  simp [addEntry, names]

/-- A new entry goes to the end, and the index learns its place. -/
theorem Indexed.addEntry {doc : Document} (h : doc.Indexed) (field : Field) (value : String)
    (absent : doc.positions.lookup field.name = none) : (doc.addEntry field value).Indexed := by
  have grown := h.append (h.lookup_eq_none_iff.mp absent)
  rw [putEntry_of_not_mem (lookup_eq_none_iff_not_mem.mp absent), names, List.length_map,
    ← names, ← names_addEntry doc field value] at grown
  exact grown

/-- Adding to the values of an entry keeps the names. -/
theorem names_modify_add (doc : Document) (position : Nat) (value : String) :
    ({ doc with entries := doc.entries.modify position (·.add value) } : Document).names =
      doc.names := by
  refine List.ext_getElem? fun i => ?_
  simp only [names, List.getElem?_map, List.getElem?_modify]
  cases doc.entries[i]? with
  | none => rfl
  | some entry => by_cases h : position = i <;> simp [h, Entry.add]

/-- The first value for a name makes an entry. -/
theorem Holds.addEntry {doc : Document} {pushes : List (Field × String)} (h : doc.Holds pushes)
    (field : Field) (value : String) (absent : field.name ∉ pushedNames pushes) :
    (doc.addEntry field value).Holds (pushes ++ [(field, value)]) := by
  refine ⟨h.indexed.addEntry field value (h.lookup_eq_none.mpr absent), ?_⟩
  have old : (pushedNames pushes).map
      (fun name => (name, pushedValues (pushes ++ [(field, value)]) name)) =
        pushedPairs pushes := by
    refine List.map_congr_left fun name member => ?_
    rw [pushedValues_append_of_ne pushes value fun e => absent (e ▸ member)]
  have new : pushedValues (pushes ++ [(field, value)]) field.name = [value] := by
    rw [pushedValues_append_self, pushedValues_of_not_mem absent]
    rfl
  calc (doc.addEntry field value).pairs
      = doc.pairs ++ [(field.name, [value])] := by simp [pairs, Document.addEntry]
    _ = pushedPairs pushes ++ [(field.name, [value])] := by rw [h.pairs_eq]
    _ = pushedPairs (pushes ++ [(field, value)]) := by
        rw [← old, pushedPairs, pushedNames_append_singleton, if_neg absent, List.map_append,
          List.map_singleton, new]

/-- A value that is there already changes nothing. -/
theorem Holds.repeated {doc : Document} {pushes : List (Field × String)} (h : doc.Holds pushes)
    {field : Field} {value : String} (member : field.name ∈ pushedNames pushes)
    (known : value ∈ pushedValues pushes field.name) :
    doc.Holds (pushes ++ [(field, value)]) := by
  refine ⟨h.indexed, ?_⟩
  rw [h.pairs_eq, pushedPairs, pushedPairs, pushedNames_append_singleton, if_pos member]
  refine List.map_congr_left fun name _ => ?_
  by_cases same : name = field.name
  · rw [same, pushedValues_append_self, if_pos known]
  · rw [pushedValues_append_of_ne pushes value same]

/-- A further value for a name goes to the end of its entry. -/
theorem Holds.addValue {doc : Document} {pushes : List (Field × String)} (h : doc.Holds pushes)
    {field : Field} {value : String} {position : Nat}
    (here : doc.names[position]? = some field.name)
    (unknown : value ∉ pushedValues pushes field.name) :
    ({ doc with entries := doc.entries.modify position (·.add value) } : Document).Holds
      (pushes ++ [(field, value)]) := by
  have found := (h.indexed field.name position).mpr here
  have member : field.name ∈ pushedNames pushes := by
    rw [← h.names_eq]
    exact List.mem_iff_getElem?.mpr ⟨position, here⟩
  refine ⟨fun name i => by rw [names_modify_add]; exact h.indexed name i, ?_⟩
  refine List.ext_getElem? fun i => ?_
  have before : doc.pairs[i]? = (pushedPairs pushes)[i]? := by rw [h.pairs_eq]
  simp only [pairs, pushedPairs, pushedNames_append_singleton, if_pos member, List.getElem?_map,
    List.getElem?_modify] at before ⊢
  by_cases same : position = i
  · subst same
    rw [h.names_eq] at here
    rw [here] at before ⊢
    cases entry_eq : doc.entries[position]? with
    | none => rw [entry_eq] at before; cases before
    | some entry =>
      rw [entry_eq] at before
      simp only [Option.map_some, Option.some.injEq, Prod.mk.injEq] at before
      simp [Entry.add, before, pushedValues_append_self, unknown]
  · cases name_eq : (pushedNames pushes)[i]? with
    | none => simpa [same, name_eq] using before
    | some name =>
      -- the index would find the name at two places
      have ne : name ≠ field.name := by
        rintro rfl
        rw [← h.names_eq] at name_eq
        have elsewhere := (h.indexed field.name i).mpr name_eq
        rw [found, Option.some.injEq] at elsewhere
        exact same elsewhere
      rw [name_eq] at before
      simpa [same, pushedValues_append_of_ne pushes value ne] using before

/-- **One push.** A document that holds some pushes holds one more after it. -/
theorem Holds.push {doc : Document} {pushes : List (Field × String)} (h : doc.Holds pushes)
    (field : Field) {value : String} (visible : Text.isBlankText value = false) :
    (doc.push field value).1.Holds (pushes ++ [(field, value)]) := by
  rw [Document.push, if_neg (by simp [visible])]
  cases found : doc.positions.lookup field.name with
  | none => exact h.addEntry field value (h.lookup_eq_none.mp found)
  | some position =>
    have here := (h.indexed field.name position).mp found
    have member : field.name ∈ pushedNames pushes := by
      rw [← h.names_eq]
      exact List.mem_iff_getElem?.mpr ⟨position, here⟩
    simp only [List.contains_iff_mem, h.valuesAt_eq here]
    split
    · next known => exact h.repeated member known
    · next unknown => exact h.addValue here unknown

/-! ## All pushes -/

/-- Pushes values one after the other. -/
def pushAll (doc : Document) (pushes : List (Field × String)) : Document :=
  pushes.foldl (fun doc push => (doc.push push.1 push.2).1) doc

theorem Holds.pushAll {doc : Document} {before pushes : List (Field × String)}
    (h : doc.Holds before) (visible : ∀ push ∈ pushes, Text.isBlankText push.2 = false) :
    (doc.pushAll pushes).Holds (before ++ pushes) := by
  induction pushes generalizing doc before with
  | nil => rw [List.append_nil]; exact h
  | cons push rest ih =>
    rw [← List.singleton_append, ← List.append_assoc]
    refine ih ?_ fun p member => visible p (List.mem_cons_of_mem _ member)
    exact h.push push.1 (visible push (List.mem_cons_self ..))

/-- **A document holds what was pushed**, if none of it is blank. -/
theorem pushAll_holds {pushes : List (Field × String)}
    (visible : ∀ push ∈ pushes, Text.isBlankText push.2 = false) :
    (empty.pushAll pushes).Holds pushes := by
  have := empty_holds.pushAll visible
  rwa [List.nil_append] at this

/-- The pushes that are not blank. -/
def stored (pushes : List (Field × String)) : List (Field × String) :=
  pushes.filter fun push => !Text.isBlankText push.2

/-- Blank pushes leave no trace. -/
theorem pushAll_stored (doc : Document) (pushes : List (Field × String)) :
    doc.pushAll (stored pushes) = doc.pushAll pushes := by
  induction pushes generalizing doc with
  | nil => rfl
  | cons push rest ih =>
    cases blank : Text.isBlankText push.2 with
    | true =>
      have skipped : stored (push :: rest) = stored rest := by simp [stored, blank]
      rw [skipped, ih, pushAll, pushAll, List.foldl_cons, doc.push_of_isBlankText push.1 blank]
    | false =>
      have kept : stored (push :: rest) = push :: stored rest := by simp [stored, blank]
      rw [kept]
      exact ih (doc.push push.1 push.2).1

/-- **A document holds what was pushed to it and is not blank.** -/
theorem pushAll_holds_stored (pushes : List (Field × String)) :
    (empty.pushAll pushes).Holds (stored pushes) := by
  rw [← pushAll_stored]
  exact pushAll_holds fun push mem => by simpa using (List.mem_filter.mp mem).2

end Document

end Intake
