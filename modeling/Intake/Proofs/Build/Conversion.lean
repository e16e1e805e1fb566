import Mathlib.Data.List.ReduceOption
import Intake.Proofs.Build.Rebuild
import Intake.Proofs.Coercion.Typed
import Intake.Proofs.Tree.Trails

/-!
# Converting a tree for one field

A tree is converted for a field by a walk over its leaves. A builder that binds nothing but that
field, to the key of the tree, meets the same leaves in the same order. At each leaf both ask the
same question, of which one keeps the typed value and the other the text; so both are images of one
walk that keeps both (`convertBoth`), and they succeed together and fail with the same error
(`Builder.buildTree_agrees_convertAll`).

That walk succeeds exactly if the texts of the leaves can be listed and each of them can be coerced
(`Tree.walk_eq_ok_iff`), which says what the values are.
-/

namespace Intake

open Intake.Schema Intake.Calendar

/-! ## Walks -/

namespace Tree

variable {α β : Type} (field : Field)

/-- To apply a function to what is found at each leaf is to apply it to what is found. -/
theorem walk_map (visit : String → Except IngestError (List α)) (f : α → β) (leaves : List Leaf) :
    walk field (fun text => (visit text).map (List.map f)) leaves =
      (walk field visit leaves).map (List.map f) := by
  induction leaves with
  | nil => rfl
  | cons leaf rest ih =>
    cases leaf with
    | scalar text =>
      rw [walk, walk, ih]
      cases visit text with
      | error error => rfl
      | ok found =>
        cases walk field visit rest with
        | error error => rfl
        | ok more => exact congrArg Except.ok List.map_append.symm
    | handle description =>
      rw [walk, walk, ih]
      cases refuseHandle field description <;> rfl

/-- **A walk succeeds exactly if** the texts can be listed, as no handle is refused, and each visit
succeeds. It then finds what the visits find, in order. -/
theorem walk_eq_ok_iff {visit : String → Except IngestError (List α)} {leaves : List Leaf}
    {found : List α} :
    walk field visit leaves = .ok found ↔
      ∃ texts results, walk field (fun text => .ok [text]) leaves = .ok texts ∧
        texts.mapM visit = .ok results ∧ found = results.flatten := by
  induction leaves generalizing found with
  | nil =>
    constructor
    · intro h
      cases h
      exact ⟨[], [], rfl, rfl, rfl⟩
    · rintro ⟨texts, results, listed, visited, rfl⟩
      cases listed
      cases visited
      rfl
  | cons leaf rest ih =>
    cases leaf with
    | scalar text =>
      simp only [walk, bind_eq_ok, ih]
      constructor
      · rintro ⟨first, visited, more, ⟨texts, results, listed, others, rfl⟩, given⟩
        cases given
        refine ⟨text :: texts, first :: results, ⟨[text], rfl, texts, listed, rfl⟩, ?_, rfl⟩
        simp [List.mapM_cons, visited, others, bind_eq_ok]
      · rintro ⟨texts, results, ⟨single, is_text, more, listed, given⟩, visited, rfl⟩
        cases is_text
        cases given
        simp only [List.singleton_append, List.mapM_cons, bind_eq_ok] at visited
        obtain ⟨first, here, others, later, given⟩ := visited
        cases given
        exact ⟨first, here, others.flatten, ⟨more, others, listed, later, rfl⟩, rfl⟩
    | handle description =>
      rw [walk, walk]
      cases refuseHandle field description with
      | error error => exact ⟨nofun, fun ⟨_, _, impossible, _⟩ => nomatch impossible⟩
      | ok _ => exact ih

end Tree

/-! ## Texts and typed values at once -/

section

variable (dates : DatePolicy) (field : Field)

/-- What a leaf holds for the field, if it is not dropped: its text with its typed value. -/
def findBoth (text : String) : Except IngestError (List (String × FieldValue)) :=
  (coerce pairRendering dates field text).map Option.toList

/-- Everything that some leaves hold for the field. -/
def convertBoth (leaves : List Leaf) : Except IngestError (List (String × FieldValue)) :=
  Tree.walk field (findBoth dates field) leaves

theorem convertBoth_scalar (text : String) (rest : List Leaf) :
    convertBoth dates field (.scalar text :: rest) = do
      let found ← findBoth dates field text
      let more ← convertBoth dates field rest
      return found ++ more := rfl

theorem convertBoth_handle (description : String) (rest : List Leaf) :
    convertBoth dates field (.handle description :: rest) =
      (Tree.refuseHandle field description >>= fun _ => convertBoth dates field rest) := rfl

/-- **The conversion of a tree** keeps the typed values. -/
theorem convertAll_eq_map (tree : Tree) :
    Tree.convertAll dates field tree =
      (convertBoth dates field tree.leaves).map (List.map Prod.snd) := by
  rw [convertBoth, ← Tree.walk_map, Tree.convertAll]
  refine congrArg (Tree.walk field · tree.leaves) (funext fun text => ?_)
  rw [coerceTyped_eq_map, findBoth]
  cases coerce pairRendering dates field text with
  | error error => rfl
  | ok both? => cases both? <;> rfl

/-- **The events of the leaves** keep the texts. -/
theorem eventPushes_eq_map (leaves : List Leaf) :
    eventPushes dates (leaves.map fun leaf => ⟨leaf, field⟩) =
      (convertBoth dates field leaves).map (List.map fun both => (field, both.1)) := by
  induction leaves with
  | nil => rfl
  | cons leaf rest ih =>
    rw [List.map_cons, eventPushes_cons, ih]
    cases leaf with
    | scalar text =>
      show coerceText dates field text >>= _ = _
      rw [coerceText_eq_map, convertBoth_scalar, findBoth]
      cases coerce pairRendering dates field text with
      | error error => rfl
      | ok both? =>
        cases convertBoth dates field rest with
        | error error => rfl
        | ok more => cases both? <;> rfl
    | handle description =>
      simp only [convertBoth_handle, Event.outcome, Tree.refuseHandle]
      split
      · cases convertBoth dates field rest <;> rfl
      · rfl

variable {dates field}

/-- What is found is what the texts of the tree are coerced to, without what is dropped. -/
theorem convertBoth_eq_ok {tree : Tree} {found : List (String × FieldValue)}
    (h : convertBoth dates field tree.leaves = .ok found) :
    ∃ texts both, Tree.flatten field tree = .ok texts ∧
      texts.mapM (coerce pairRendering dates field) = .ok both ∧ found = both.reduceOption := by
  obtain ⟨texts, results, listed, visited, rfl⟩ := (Tree.walk_eq_ok_iff field).mp h
  have split_up : texts.mapM (findBoth dates field) =
      (texts.mapM (coerce pairRendering dates field)).map (List.map Option.toList) :=
    mapM_map_eq _ _ texts
  rw [split_up] at visited
  cases coerced : texts.mapM (coerce pairRendering dates field) with
  | error error =>
    rw [coerced] at visited
    cases visited
  | ok both =>
    rw [coerced] at visited
    obtain rfl : both.map Option.toList = results := Except.ok.inj visited
    refine ⟨texts, both, listed, coerced, ?_⟩
    rw [List.reduceOption, List.filterMap_eq_flatMap_toList, List.flatMap]
    rfl

end

/-! ## Building the document of one field -/

/-- The values of one name, if there are any. -/
def soleEntry (name : String) (values : List String) : List (String × List String) :=
  if values = [] then [] else [(name, values)]

theorem pushedPairs_sole (field : Field) (values : List String) :
    pushedPairs (values.map fun value => (field, value)) =
      soleEntry field.name values.eraseDups := by
  by_cases none_left : values = []
  · subst none_left
    rfl
  · have some_left : values.eraseDups ≠ [] := by
      rw [← List.isEmpty_eq_false_iff, isEmpty_eraseDups]
      exact List.isEmpty_eq_false_iff.mpr none_left
    rw [pushedPairs_group field none_left, soleEntry, if_neg some_left]

namespace Tree

theorem leavesAt_nil (tree : Tree) : leavesAt [] tree = tree.leaves := by
  rw [leavesAt_eq_pick, pick_nil_path, map_snd_trailedLeaves]

end Tree

namespace Builder

/-- The builder binds the field to the path, and nothing else, and has no enrichers. -/
structure BindsOnly (builder : Builder) (path : String) (field : Field) : Prop where
  paths_eq : builder.binding.paths = [⟨path, [field]⟩]
  enrichers_eq : builder.enrichers = []

variable {builder : Builder} {key : String} {field : Field}

/-- The events are the leaves of the tree below the key. -/
theorem BindsOnly.events_eq (binds : builder.BindsOnly key field) (undotted : '.' ∉ key.toList)
    (tree : Tree) :
    builder.binding.events (.record [(key, tree)]) =
      tree.leaves.map fun leaf => ⟨leaf, field⟩ := by
  have leaves_eq : Tree.leavesAt [key] (.record [(key, tree)]) = tree.leaves := by
    rw [← Tree.leavesAt_nil, Tree.leavesAt, Tree.reach, Tree.reachMember, if_pos rfl, Tree.leavesAt]
  rw [Binding.events, binds.paths_eq, List.flatMap_singleton, PathBinding.segments,
    Binding.pathSegments_of_undotted undotted, leaves_eq]
  simp [List.map_eq_flatMap]

/-- **A build for one field** keeps the distinct texts of what is found. -/
theorem BindsOnly.buildTree_eq (binds : builder.BindsOnly key field) (undotted : '.' ∉ key.toList)
    (tree : Tree) (scratch : Scratch) :
    (builder.buildTree (.record [(key, tree)]) scratch).1 =
      (convertBoth builder.dates field tree.leaves).map fun found =>
        builtOf builder.idField (soleEntry field.name (found.map Prod.fst).eraseDups) := by
  have events_eq := binds.events_eq undotted tree
  obtain ⟨binding, enrichers, dates, idField⟩ := builder
  obtain rfl : enrichers = [] := binds.enrichers_eq
  rw [buildTree_of_no_enrichers, events_eq, eventPushes_eq_map]
  cases convertBoth dates field tree.leaves with
  | error error => rfl
  | ok found =>
    have pushes_eq : (found.map fun both => (field, both.1)) =
        (found.map Prod.fst).map fun value => (field, value) := by
      simp [Function.comp_def]
    show Except.ok (builtOf idField (pushedPairs (found.map fun both => (field, both.1)))) = _
    rw [pushes_eq, pushedPairs_sole]
    rfl

/-- **To convert a tree is to build its document.** Let a builder bind a field to a key, and nothing
else. It builds the record with a tree at that key if and only if the tree can be converted for the
field, and both fail with the same error. If the tree is converted, its texts can be listed; the
typed values are those that the texts are coerced to, without the dropped ones and in order; and the
document holds, for the field and nothing else, the distinct texts that they are coerced to, by
their first appearance. -/
theorem buildTree_agrees_convertAll (binds : builder.BindsOnly key field)
    (undotted : '.' ∉ key.toList) (tree : Tree) (scratch : Scratch) :
    ((∃ built, (builder.buildTree (.record [(key, tree)]) scratch).1 = .ok built) ↔
      ∃ values, Tree.convertAll builder.dates field tree = .ok values) ∧
    (∀ error, (builder.buildTree (.record [(key, tree)]) scratch).1 = .error error ↔
      Tree.convertAll builder.dates field tree = .error error) ∧
    ∀ values, Tree.convertAll builder.dates field tree = .ok values →
      ∃ texts typed coerced, Tree.flatten field tree = .ok texts ∧
        texts.mapM (coerceTyped builder.dates field) = .ok typed ∧ values = typed.reduceOption ∧
        texts.mapM (coerceText builder.dates field) = .ok coerced ∧
        (builder.buildTree (.record [(key, tree)]) scratch).1 =
          .ok (builtOf builder.idField
            (soleEntry field.name coerced.reduceOption.eraseDups)) := by
  rw [binds.buildTree_eq undotted, convertAll_eq_map]
  cases converted : convertBoth builder.dates field tree.leaves with
  | error error =>
    refine ⟨⟨nofun, nofun⟩, fun other => ?_, nofun⟩
    exact ⟨fun failed => congrArg _ (Except.error.inj failed),
      fun failed => congrArg _ (Except.error.inj failed)⟩
  | ok found =>
    refine ⟨⟨fun _ => ⟨_, rfl⟩, fun _ => ⟨_, rfl⟩⟩, fun error => ⟨nofun, nofun⟩, ?_⟩
    intro values given
    obtain rfl : found.map Prod.snd = values := Except.ok.inj given
    obtain ⟨texts, both, listed, coerced, rfl⟩ := convertBoth_eq_ok converted
    refine ⟨texts, both.map (Option.map Prod.snd), both.map (Option.map Prod.fst), listed, ?_,
      (List.reduceOption_map).symm, ?_, ?_⟩
    · rw [funext (coerceTyped_eq_map _ _), mapM_map_eq, coerced]
      rfl
    · rw [funext (coerceText_eq_map _ _), mapM_map_eq, coerced]
      rfl
    · rw [List.reduceOption_map]
      rfl

/-- A builder for nothing but ranks. -/
def ranksOnly (rank : Field) : Builder where
  binding := ⟨"people", "person", [⟨"k", [rank]⟩]⟩
  enrichers := []
  dates := .textOnly
  idField := some "rank"

/-- Ranks with blanks around them, one that is none and an open connection among them. -/
def mixedRanks : Tree :=
  .list [.scalar " 7", .record [("old", .scalar "7 "), ("new", .scalar "12")], .handle "socket",
    .scalar "seventh", .null]

/-- A lenient field has three ranks, two of them the same; a strict one fails at the connection. -/
theorem buildTree_agrees_convertAll_ranks :
    let strict := Field.ofType "rank" .byte
    let lenient := { strict with ignoreMalformed := some true }
    Tree.convertAll .textOnly lenient mixedRanks = .ok [.integer 7, .integer 7, .integer 12] ∧
    ((ranksOnly lenient).buildTree (.record [("k", mixedRanks)]) Scratch.empty).1 =
      .ok ⟨some "7", "\x7b\"rank\":[\"7\",\"12\"]\x7d"⟩ ∧
    ((ranksOnly strict).buildTree (.record [("k", mixedRanks)]) Scratch.empty).1 =
      .error (.malformed "rank" "byte" "socket" none) := by
  intro strict lenient
  have converted : Tree.convertAll .textOnly lenient mixedRanks =
      .ok [.integer 7, .integer 7, .integer 12] := eq_ok_of_toOption (by decide +kernel)
  refine ⟨converted, ?_, ?_⟩
  · have binds : (ranksOnly lenient).BindsOnly "k" lenient := ⟨rfl, rfl⟩
    obtain ⟨texts, typed, coerced, listed, -, -, coerced_eq, built⟩ :=
      (buildTree_agrees_convertAll binds (by decide) mixedRanks Scratch.empty).2.2 _ converted
    obtain rfl : [" 7", "7 ", "12", "seventh"] = texts := Except.ok.inj listed
    obtain rfl : [some "7", some "7", some "12", none] = coerced :=
      Except.ok.inj (Eq.trans (eq_ok_of_toOption (by decide +kernel)).symm coerced_eq)
    rw [built]
    exact eq_ok_of_toOption (by decide +kernel)
  · have binds : (ranksOnly strict).BindsOnly "k" strict := ⟨rfl, rfl⟩
    have failed : Tree.convertAll .textOnly strict mixedRanks =
        .error (.malformed "rank" "byte" "socket" none) := by rfl
    have agree := buildTree_agrees_convertAll binds (by decide) mixedRanks Scratch.empty
    exact (agree.2.1 _).mpr failed

end Builder

end Intake
