import Intake.Proofs.Build.Line
import Intake.Proofs.Coercion.Visible
import Intake.Proofs.Document.Multimap

/-!
# What a build collects

A build goes over the bound paths, over the leaves at the end of each and over the fields of the
path. Flattened, that is one list of *events*: a leaf that meets a field. An event gives a value,
nothing, or an error, and does so whatever came before it; so the outcome of a build without
enrichers can be said without any state (`buildTree_eq_reference`): the first error among the
events, or else the document of all their values.
-/

namespace Intake

open Intake.Schema Intake.Calendar

/-! ## Events -/

/-- A leaf that meets a field of its path. -/
structure Event where
  leaf : Leaf
  field : Field

/-- The events of a tree, in order: path by path, leaf by leaf, field by field. -/
def Binding.events (binding : Binding) (tree : Tree) : List Event :=
  binding.paths.flatMap fun path =>
    (tree.leavesAt path.segments).flatMap fun leaf =>
      path.fields.map fun field => ⟨leaf, field⟩

namespace Event

/-- What comes of an event: a value, nothing, or an error. A handle has no value, and is an error
for a field that does not ignore malformed values. -/
def outcome (dates : DatePolicy) (event : Event) : Except IngestError (Option String) :=
  match event.leaf with
  | .scalar text => coerceText dates event.field text
  | .handle description =>
    if event.field.ignoresMalformed then .ok none
    else .error (.malformed event.field.name event.field.typeName description none)

/-- The error of an event that fails. -/
def failure? (dates : DatePolicy) (event : Event) : Option IngestError :=
  match event.outcome dates with
  | .error error => some error
  | .ok _ => none

/-- The value of an event that has one, and the field it is for. -/
def push? (dates : DatePolicy) (event : Event) : Option (Field × String) :=
  match event.outcome dates with
  | .ok (some value) => some (event.field, value)
  | _ => none

/-- A value comes from a scalar. -/
theorem push?_eq_some {dates : DatePolicy} {event : Event} {push : Field × String}
    (h : event.push? dates = some push) :
    ∃ text, event = ⟨.scalar text, push.1⟩ ∧
      coerceText dates push.1 text = .ok (some push.2) := by
  obtain ⟨leaf, field⟩ := event
  unfold push? outcome at h
  cases leaf with
  | scalar text =>
    simp only at h
    split at h
    · next value coerced =>
      obtain rfl := Option.some.inj h
      exact ⟨text, rfl, coerced⟩
    · cases h
  | handle description =>
    simp only at h
    split at h
    · next impossible => split at impossible <;> cases impossible
    · cases h

theorem push?_visible {dates : DatePolicy} {event : Event} {push : Field × String}
    (h : event.push? dates = some push) : Text.isBlankText push.2 = false := by
  obtain ⟨text, -, coerced⟩ := push?_eq_some h
  exact coerceText_visible coerced

end Event

/-! ## Collecting is going through the events -/

/-- Going through lists of lists is going through their elements. -/
theorem forM_flatMap {m : Type → Type} [Monad m] [LawfulMonad m] {α β : Type} (l : List α)
    (f : α → List β) (g : β → m PUnit) :
    (l.flatMap f).forM g = l.forM fun a => (f a).forM g := by
  induction l with
  | nil => rfl
  | cons a rest ih =>
    rw [List.flatMap_cons, List.forM_eq_forM, List.forM_append]
    simp only [List.forM_eq_forM] at ih ⊢
    rw [List.forM_cons, ih]

namespace Builder

/-- Collects the leaf of an event for its field. -/
def collectEvent (builder : Builder) (event : Event) : BuildM Unit :=
  builder.collectFor event.leaf event.field

theorem collect_eq_forM_events (builder : Builder) (tree : Tree) :
    builder.collect tree = (builder.binding.events tree).forM builder.collectEvent := by
  have leaf_eq : ∀ (fields : List Field) (leaf : Leaf),
      (fields.map fun field => Event.mk leaf field).forM builder.collectEvent =
        builder.collectLeaf fields leaf := by
    intro fields leaf
    rw [List.forM_eq_forM, List.forM_map]
    rfl
  rw [Binding.events, forM_flatMap]
  simp only [forM_flatMap, leaf_eq]
  rfl

/-! ## One event and all of them -/

/-- Adds pushes to the document of a scratch. -/
def pushOnto (scratch : Scratch) (pushes : List (Field × String)) : Scratch :=
  { scratch with document := scratch.document.pushAll pushes }

/-- **One event** fails with its error, or pushes its value if it has one. -/
theorem collectEvent_on (builder : Builder) (event : Event) (scratch : Scratch) :
    (builder.collectEvent event).on scratch =
      match event.failure? builder.dates with
      | some error => (.error error, scratch)
      | none => (.ok (), pushOnto scratch (event.push? builder.dates).toList) := by
  obtain ⟨leaf, field⟩ := event
  unfold collectEvent collectFor Event.failure? Event.push? Event.outcome
  cases leaf with
  | scalar text =>
    simp only [BuildM.on_bind, BuildM.on_ofExcept]
    cases coerceText builder.dates field text with
    | error error => rfl
    | ok value? => cases value? <;> rfl
  | handle description =>
    simp only [BuildM.on_ofExcept, Tree.refuseHandle]
    split <;> rfl

/-- **All events** together fail with the first error among them, or push all their values. -/
theorem forM_collectEvent_on (builder : Builder) (events : List Event) (scratch : Scratch) :
    match events.findSome? (Event.failure? builder.dates) with
    | some error => ∃ used, (events.forM builder.collectEvent).on scratch = (.error error, used)
    | none => (events.forM builder.collectEvent).on scratch =
        (.ok (), pushOnto scratch (events.filterMap (Event.push? builder.dates))) := by
  induction events generalizing scratch with
  | nil => rfl
  | cons event rest ih =>
    rw [List.findSome?_cons, List.forM_eq_forM, List.forM_cons, BuildM.on_bind, collectEvent_on]
    cases failed : event.failure? builder.dates with
    | some error => exact ⟨scratch, rfl⟩
    | none =>
      have rest_on := ih (pushOnto scratch (event.push? builder.dates).toList)
      have pushes_eq : (event :: rest).filterMap (Event.push? builder.dates) =
          (event.push? builder.dates).toList ++
            rest.filterMap (Event.push? builder.dates) := by
        cases found : event.push? builder.dates <;> simp [found]
      simp only [List.forM_eq_forM] at rest_on
      rw [pushes_eq]
      simpa only [pushOnto, Document.pushAll, List.foldl_append] using rest_on

/-! ## The reference meaning of a build -/

/-- The pushes that collecting a tree amounts to, if no event fails. -/
def pushesOf (builder : Builder) (tree : Tree) : List (Field × String) :=
  (builder.binding.events tree).filterMap (Event.push? builder.dates)

theorem pushesOf_visible (builder : Builder) (tree : Tree) :
    ∀ push ∈ builder.pushesOf tree, Text.isBlankText push.2 = false := by
  intro push member
  obtain ⟨event, -, found⟩ := List.mem_filterMap.mp member
  exact Event.push?_visible found

/-- Without enrichers, what is collected is written as it is. -/
theorem assemble_on_of_no_enrichers {builder : Builder} (plain : builder.enrichers = [])
    (tree : Tree) (scratch : Scratch) :
    (builder.assemble tree).on scratch =
      match (builder.collect tree).on scratch with
      | (.ok (), used) =>
        (.ok ⟨builder.idField.bind used.document.first?, used.document.line⟩, used)
      | (.error error, used) => (.error error, used) := by
  have enrich_on (used : Scratch) : builder.enrich.on used = (.ok (), used) := by
    simp only [enrich, plain, List.any_nil, Bool.false_eq_true, if_false]
    rfl
  rw [assemble_on, BuildM.on_bind]
  cases (builder.collect tree).on scratch with
  | mk result used =>
    cases result with
    | error error => rfl
    | ok _ => simp only [enrich_on]

/-- **A build without enrichers means its events.** If one of them fails, the build answers the
first error and no line. Otherwise its line is the JSON text of the distinct values of each name,
names and values in the order of their first occurrence, and its id is the first value of the
identifying field. -/
theorem buildTree_eq_reference (binding : Binding) (dates : DatePolicy) (idField : Option String)
    (tree : Tree) (scratch : Scratch) :
    ((Builder.mk binding [] dates idField).buildTree tree scratch).1 =
      match (binding.events tree).findSome? (Event.failure? dates) with
      | some error => .error error
      | none =>
        let pushes := (binding.events tree).filterMap (Event.push? dates)
        .ok ⟨idField.bind fun name => (pushedValues pushes name).head?,
          (pushedJson pushes).text⟩ := by
  let builder := Builder.mk binding [] dates idField
  have run := forM_collectEvent_on builder (binding.events tree) Scratch.empty
  rw [← collect_eq_forM_events builder tree] at run
  show ((builder.assemble tree).on Scratch.empty).1 = _
  rw [assemble_on_of_no_enrichers rfl]
  cases failed : (binding.events tree).findSome? (Event.failure? dates) with
  | some error =>
    simp only [show builder.dates = dates from rfl, failed] at run
    obtain ⟨used, run⟩ := run
    rw [run]
  | none =>
    simp only [show builder.dates = dates from rfl, failed] at run
    have holds := Document.pushAll_holds (builder.pushesOf_visible tree)
    rw [run]
    simp only [pushOnto, Scratch.empty]
    rw [show (binding.events tree).filterMap (Event.push? dates) = builder.pushesOf tree from rfl,
      holds.line_eq, funext holds.first?_eq]

end Builder

end Intake
