import Intake.Proofs.Document.Multimap
import Intake.Proofs.Json.RoundTrip
import Mathlib.Data.List.Forall2

/-!
# Document lines are read back

The line of a document says what the document holds: read as JSON, it is an object with a member for
every name, in order (`Document.Indexed.read_line`), and a member is a string for one value and a
list of strings for several (`Document.Holds.forall₂_shows`). Names do not repeat and no name is
without a value, so neither an empty list nor anything else comes up, and the line determines the
names and the values.

There is one exception, and it is the reader's: an object whose first key is the number marker
stands for a number. A reader to which no key means anything reads such a line, too
(`Document.Indexed.readAsWritten_line`).
-/

namespace Intake

open Intake.Schema

namespace Document

/-! ## Members -/

/-- A member of an object shows which values a name has: a string for one, a list for several. -/
inductive Shows : String × List String → String × Json → Prop
  | one (name value : String) : Shows (name, [value]) (name, .string value)
  | several (name first second : String) (rest : List String) :
      Shows (name, first :: second :: rest)
        (name, .array ((first :: second :: rest).map .string))

/-- What a member shows is unambiguous. -/
theorem Shows.unique {pair other : String × List String} {member : String × Json}
    (h : Shows pair member) (h' : Shows other member) : pair = other := by
  cases h with
  | one => cases h'; rfl
  | several name first second rest =>
    generalize member_eq : Json.array ((first :: second :: rest).map .string) = value at h'
    cases h' with
    | one => cases member_eq
    | several _ first' second' rest' =>
      have strings_injective : Function.Injective (List.map Json.string) :=
        List.map_injective_iff.mpr fun _ _ => Json.string.inj
      rw [strings_injective (Json.array.inj member_eq)]

theorem shows_valuesToJson (name : String) {values : List String} (some_value : values ≠ []) :
    Shows (name, values) (name, valuesToJson values) := by
  match values, some_value with
  | [value], _ => exact .one name value
  | first :: second :: rest, _ => exact .several name first second rest

/-! ## The members of a line -/

/-- The members of a document's object. -/
def members (doc : Document) : List (String × Json) :=
  doc.pairs.map fun pair => (pair.1, valuesToJson pair.2)

theorem toJson_eq_object (doc : Document) : doc.toJson = .object doc.members := by
  rw [toJson, members, pairs, List.map_map]
  rfl

theorem keys_members (doc : Document) : doc.members.map Prod.fst = doc.names := by
  rw [members, List.map_map, ← map_fst_pairs]
  rfl

/-- Every member shows what its entry holds. -/
theorem Holds.forall₂_shows {doc : Document} {pushes : List (Field × String)}
    (h : doc.Holds pushes) : List.Forall₂ Shows doc.pairs doc.members := by
  rw [members, List.forall₂_map_right_iff, List.forall₂_same]
  intro pair mem
  rw [h.pairs_eq] at mem
  obtain ⟨name, pushed, rfl⟩ := List.mem_map.mp mem
  exact shows_valuesToJson name (pushedValues_ne_nil pushed)

theorem valuesToJson_readsBack (asWritten : Bool) (depth : Nat) (values : List String) :
    Json.ReadsBack asWritten (depth + 1) (valuesToJson values) := by
  unfold valuesToJson
  split
  · exact .string _ _
  · refine .array fun item mem => ?_
    obtain ⟨value, -, rfl⟩ := List.mem_map.mp mem
    exact .string _ _

/-- A document's object is read back, if the reader does not take it for a number. -/
theorem Indexed.toJson_readsBack {doc : Document} (h : doc.Indexed) {asWritten : Bool}
    (unmarked : asWritten = false → doc.names.head? ≠ some Json.numberMarker) :
    Json.ReadsBack asWritten Json.maxDepth doc.toJson := by
  rw [toJson_eq_object]
  refine .object (fun _ => ?_) (fun merged => ?_) fun member mem => ?_
  · rw [keys_members]
    exact h.nodup
  · rw [keys_members]
    exact unmarked merged
  · obtain ⟨pair, -, rfl⟩ := List.mem_map.mp mem
    exact valuesToJson_readsBack asWritten _ pair.2

/-! ## Lines -/

/-- **Every line is read as it is written.** -/
theorem Indexed.readAsWritten_line {doc : Document} (h : doc.Indexed) :
    Json.readAsWritten doc.line = .ok (.object doc.members) := by
  rw [← toJson_eq_object]
  exact Json.readAsWritten_text (h.toJson_readsBack nofun)

theorem Indexed.read_line {doc : Document} (h : doc.Indexed)
    (unmarked : doc.names.head? ≠ some Json.numberMarker) :
    Json.read doc.line = .ok (.object doc.members) := by
  rw [← toJson_eq_object]
  exact Json.read_text (h.toJson_readsBack fun _ => unmarked)

/-- What was pushed is read back from its text, if no name is the number marker. -/
theorem read_pushedJson {pushes : List (Field × String)}
    (visible : ∀ push ∈ pushes, Text.isBlankText push.2 = false)
    (unmarked : ∀ push ∈ pushes, push.1.name ≠ Json.numberMarker) :
    Json.read (pushedJson pushes).text = .ok (pushedJson pushes) := by
  have holds := pushAll_holds visible
  have first_unmarked : (empty.pushAll pushes).names.head? ≠ some Json.numberMarker := by
    intro first
    rw [holds.names_eq] at first
    obtain ⟨push, pushed, same⟩ :=
      List.mem_map.mp (List.mem_eraseDups.mp (List.mem_of_head? first))
    exact unmarked push pushed same
  rw [← holds.toJson_eq]
  exact Json.read_text (holds.indexed.toJson_readsBack fun _ => first_unmarked)

/-- A line says which names and values its document holds. -/
theorem Holds.pairs_eq_of_line_eq {doc other : Document} {pushes others : List (Field × String)}
    (h : doc.Holds pushes) (h' : other.Holds others) (same : doc.line = other.line) :
    doc.pairs = other.pairs := by
  have read_eq := h.indexed.readAsWritten_line
  rw [same, h'.indexed.readAsWritten_line] at read_eq
  have members_eq : other.members = doc.members := Json.object.inj (Except.ok.inj read_eq)
  have shown := h.forall₂_shows
  have shown' := h'.forall₂_shows
  rw [members_eq] at shown'
  exact List.left_unique_forall₂' (fun _ _ _ one other => one.unique other) shown shown'

/-! ## Identifying values -/

/-- How an id lies in the members of an object: there is one exactly if the field is there, and it
is the field's string or the first of its list. -/
inductive Identifies (members : List (String × Json)) (name : String) : Option String → Prop
  | absent (h : members.lookup name = none) : Identifies members name none
  | single (value : String) (h : members.lookup name = some (.string value)) :
      Identifies members name (some value)
  | first (value : String) (rest : List Json)
      (h : members.lookup name = some (.array (.string value :: rest))) :
      Identifies members name (some value)

theorem lookup_map_pair {α : Type} (f : String → α) (names : List String) (name : String) :
    (names.map fun n => (n, f n)).lookup name = if name ∈ names then some (f name) else none := by
  induction names with
  | nil => rfl
  | cons n rest ih =>
    rw [List.map_cons, List.lookup_cons]
    by_cases same : name = n
    · simp [same]
    · have other : (name == n) = false := beq_eq_false_iff_ne.mpr same
      simp [other, same, ih]

theorem lookup_pushedPairs (pushes : List (Field × String)) (name : String) :
    ((pushedPairs pushes).lookup name).getD [] = pushedValues pushes name := by
  rw [pushedPairs, lookup_map_pair]
  split
  · rfl
  · next absent => rw [pushedValues_of_not_mem absent]; rfl

theorem Holds.lookup_members {doc : Document} {pushes : List (Field × String)}
    (h : doc.Holds pushes) (name : String) :
    doc.members.lookup name =
      if name ∈ pushedNames pushes then some (valuesToJson (pushedValues pushes name))
      else none := by
  rw [members, h.pairs_eq, pushedPairs, List.map_map]
  exact lookup_map_pair (fun name => valuesToJson (pushedValues pushes name)) _ name

/-- **The first value of a name is the id** that the document's members give. -/
theorem Holds.identifies {doc : Document} {pushes : List (Field × String)}
    (h : doc.Holds pushes) (name : String) : Identifies doc.members name (doc.first? name) := by
  have member := h.lookup_members name
  rw [h.first?_eq]
  by_cases pushed : name ∈ pushedNames pushes
  · rw [if_pos pushed] at member
    match values_eq : pushedValues pushes name, pushedValues_ne_nil pushed with
    | [value], _ =>
      rw [values_eq] at member
      exact .single value member
    | value :: second :: rest, _ =>
      rw [values_eq] at member
      exact .first value ((second :: rest).map .string) member
  · rw [if_neg pushed] at member
    rw [pushedValues_of_not_mem pushed]
    exact .absent member

/-! ## What a line says -/

/-- **A document line is read back as the document.** A document holds what was pushed: the names
and, for each, its distinct values, both in the order in which they came. If the first name is not
the number marker, the line is read as an object whose members show, in order, which values each
name holds; no key repeats. Documents with the same line hold the same. -/
theorem read_line_pushAll (pushes : List (Field × String))
    (unmarked : (empty.pushAll pushes).names.head? ≠ some Json.numberMarker) :
    (empty.pushAll pushes).pairs = pushedPairs (stored pushes) ∧
      (∃ members, Json.read (empty.pushAll pushes).line = .ok (.object members) ∧
        List.Forall₂ Shows (empty.pushAll pushes).pairs members ∧ (members.map Prod.fst).Nodup) ∧
      ∀ others, (empty.pushAll others).line = (empty.pushAll pushes).line →
        (empty.pushAll others).pairs = (empty.pushAll pushes).pairs := by
  have holds := pushAll_holds_stored pushes
  refine ⟨holds.pairs_eq,
    ⟨(empty.pushAll pushes).members, holds.indexed.read_line unmarked, holds.forall₂_shows, ?_⟩,
    fun others same => (pushAll_holds_stored others).pairs_eq_of_line_eq holds same⟩
  rw [keys_members]
  exact holds.indexed.nodup

/-- Values of two names: one that comes twice, a blank one, and one with quotes and a line feed. -/
def reviewPushes : List (Field × String) :=
  [(Field.ofType "title" .text, "Dune"), (Field.ofType "tags" .keyword, "a \"b\"\n"),
    (Field.ofType "tags" .keyword, " "), (Field.ofType "tags" .keyword, "ü"),
    (Field.ofType "title" .text, "Dune")]

/-- One title is a string, two tags are a list. -/
theorem read_line_reviewPushes :
    (empty.pushAll reviewPushes).names.head? ≠ some Json.numberMarker ∧
      ∃ members, Json.read (empty.pushAll reviewPushes).line = .ok (.object members) ∧
        List.Forall₂ Shows [("title", ["Dune"]), ("tags", ["a \"b\"\n", "ü"])] members := by
  have unmarked : (empty.pushAll reviewPushes).names.head? ≠ some Json.numberMarker := by
    decide +kernel
  have pushed_eq : pushedPairs (stored reviewPushes) =
      [("title", ["Dune"]), ("tags", ["a \"b\"\n", "ü"])] := by
    decide +kernel
  obtain ⟨pairs_eq, ⟨members, read_eq, shown, -⟩, -⟩ := read_line_pushAll reviewPushes unmarked
  rw [pairs_eq, pushed_eq] at shown
  exact ⟨unmarked, members, read_eq, shown⟩

end Document

end Intake
