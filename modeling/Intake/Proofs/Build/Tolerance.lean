import Mathlib.Data.List.Forall2
import Intake.Proofs.Build.Enrichment
import Intake.Proofs.Build.Failure
import Intake.Proofs.Coercion.Tolerance

/-!
# Builds that tolerate more

A builder may be made to ignore malformed values in some of the fields that it fills. Beside the
strict builder, the tolerant one goes through the same values: what a flag changes is a refusal of a
malformed value at most, and the strict build ends there. So where the strict builder answers
anything else, the tolerant one answers the same (`Builder.buildTree_tolerance`).

Fields differ in a flag that documents carry along and never read, so documents are compared with
the flag erased (`Document.plain`).
-/

namespace Intake

open Intake.Schema Intake.Calendar

/-- What stands in one of two related lists is related to something in the other. -/
theorem exists_related {α β : Type} {R : α → β → Prop} {l : List α} {l' : List β} {b : β}
    (h : List.Forall₂ R l l') (mem : b ∈ l') : ∃ a ∈ l, R a b := by
  induction h with
  | nil => cases mem
  | @cons a b' rest rest' related _ ih =>
    rcases List.mem_cons.mp mem with rfl | later
    · exact ⟨a, List.mem_cons_self, related⟩
    · obtain ⟨a', mem', related'⟩ := ih later
      exact ⟨a', List.mem_cons_of_mem _ mem', related'⟩

/-! ## Pushes to relaxed fields -/

/-- The field without its flag. -/
def Schema.Field.plain (field : Field) : Field := { field with ignoreMalformed := none }

theorem Schema.Field.RelaxedTo.plain_eq {field relaxed : Field} (h : field.RelaxedTo relaxed) :
    relaxed.plain = field.plain := by
  rcases h with rfl | rfl <;> rfl

/-- A push to the field without its flag. -/
def plainPush (push : Field × String) : Field × String := (push.1.plain, push.2)

/-- The pushes are the same, but for the flags of their fields. -/
def SamePushes (pushes relaxed : List (Field × String)) : Prop :=
  relaxed.map plainPush = pushes.map plainPush

namespace SamePushes

variable {pushes relaxed more moreRelaxed : List (Field × String)}

theorem append (h : SamePushes pushes relaxed) (h' : SamePushes more moreRelaxed) :
    SamePushes (pushes ++ more) (relaxed ++ moreRelaxed) := by
  rw [SamePushes, List.map_append, List.map_append, h, h']

theorem values_eq (h : SamePushes pushes relaxed) :
    relaxed.map Prod.snd = pushes.map Prod.snd := by
  have values (l : List (Field × String)) : l.map Prod.snd = (l.map plainPush).map Prod.snd := by
    rw [List.map_map]
    rfl
  rw [values relaxed, h, ← values]

end SamePushes

/-- The entry without the flag of its field. -/
def Entry.plain (entry : Entry) : Entry := { entry with field := entry.field.plain }

namespace Document

/-- The document without the flags of its fields. -/
def plain (doc : Document) : Document := { doc with entries := doc.entries.map Entry.plain }

theorem valuesAt_plain (doc : Document) (position : Nat) :
    doc.plain.valuesAt position = doc.valuesAt position := by
  rw [valuesAt, valuesAt, plain, List.getElem?_map]
  cases doc.entries[position]? <;> rfl

theorem addEntry_plain (doc : Document) (field : Field) (value : String) :
    doc.plain.addEntry field.plain value = (doc.addEntry field value).plain := by
  simp only [plain, addEntry, List.map_append, List.map_singleton, List.length_map]
  rfl

theorem addValue_plain (doc : Document) (position : Nat) (value : String) :
    ({ doc.plain with entries := doc.plain.entries.modify position (·.add value) } : Document) =
      ({ doc with entries := doc.entries.modify position (·.add value) } : Document).plain := by
  have entries_eq : doc.plain.entries.modify position (·.add value) =
      (doc.entries.modify position (·.add value)).map Entry.plain := by
    refine List.ext_getElem? fun i => ?_
    simp only [plain, List.getElem?_map, List.getElem?_modify]
    cases doc.entries[i]? with
    | none => rfl
    | some entry => by_cases here : position = i <;> simp [here, Entry.add, Entry.plain]
  rw [entries_eq]
  rfl

/-- **A push never reads the flag** of its field or of those that are there. -/
theorem push_plain (doc : Document) (field : Field) (value : String) :
    (doc.plain.push field.plain value).1 = (doc.push field value).1.plain := by
  have positions_eq : doc.plain.positions = doc.positions := rfl
  have name_eq : field.plain.name = field.name := rfl
  unfold push
  rw [positions_eq, name_eq]
  split
  · rfl
  · split
    · rw [valuesAt_plain]
      split
      · rfl
      · exact addValue_plain doc _ value
    · exact addEntry_plain doc field value

theorem pushAll_plain (doc : Document) (pushes : List (Field × String)) :
    doc.plain.pushAll (pushes.map plainPush) = (doc.pushAll pushes).plain := by
  induction pushes generalizing doc with
  | nil => rfl
  | cons push rest ih =>
    rw [List.map_cons, pushAll, List.foldl_cons, plainPush, push_plain]
    exact ih _

/-- **The same pushes make the same document**, but for the flags. -/
theorem pushAll_same {doc other : Document} (alike : other.plain = doc.plain)
    {pushes relaxed : List (Field × String)} (same : SamePushes pushes relaxed) :
    (other.pushAll relaxed).plain = (doc.pushAll pushes).plain := by
  rw [← pushAll_plain, ← pushAll_plain, same, alike]

variable {doc other : Document}

theorem aggregated_plain (doc : Document) : doc.plain.aggregated = doc.aggregated := by
  have flags_eq : (fun entry : Entry => entry.field.isAggregated) ∘ Entry.plain =
      fun entry => entry.field.isAggregated := rfl
  rw [aggregated, aggregated, plain, List.filter_map, flags_eq, List.flatMap_map]
  rfl

theorem line_plain (doc : Document) : doc.plain.line = doc.line := by
  rw [line, line, toJson, toJson, plain, List.map_map]
  rfl

theorem first?_plain (doc : Document) (name : String) : doc.plain.first? name = doc.first? name := by
  rw [first?, first?, get?, get?, funext doc.valuesAt_plain]
  rfl

end Document

/-! ## Relaxed builders -/

/-- The same path, feeding the same fields relaxed. -/
structure PathBinding.RelaxedTo (binding relaxed : PathBinding) : Prop where
  path_eq : relaxed.path = binding.path
  fields : List.Forall₂ Field.RelaxedTo binding.fields relaxed.fields

structure Binding.RelaxedTo (binding relaxed : Binding) : Prop where
  index_eq : relaxed.index = binding.index
  mapping_eq : relaxed.mapping = binding.mapping
  paths : List.Forall₂ PathBinding.RelaxedTo binding.paths relaxed.paths

/-- The same value for the same field relaxed. -/
structure Contribution.RelaxedTo (contribution relaxed : Contribution) : Prop where
  field : contribution.field.RelaxedTo relaxed.field
  value_eq : relaxed.value = contribution.value

/-- The answers of an enricher with its fields as they are and relaxed. -/
inductive RelaxedAnswers :
    Except String (List Contribution) → Except String (List Contribution) → Prop where
  | failed (reason : String) : RelaxedAnswers (.error reason) (.error reason)
  | contributed {contributions relaxed : List Contribution}
      (related : List.Forall₂ Contribution.RelaxedTo contributions relaxed) :
      RelaxedAnswers (.ok contributions) (.ok relaxed)

/-- The same enricher, contributing to its fields relaxed. -/
structure Enricher.RelaxedTo (enricher relaxed : Enricher) : Prop where
  name_eq : relaxed.name = enricher.name
  needsAggregate_eq : relaxed.needsAggregate = enricher.needsAggregate
  answers : ∀ text, RelaxedAnswers (enricher.enrich text) (relaxed.enrich text)

/-- The same builder, with some of the fields that it fills relaxed. -/
structure Builder.RelaxedTo (builder relaxed : Builder) : Prop where
  binding : builder.binding.RelaxedTo relaxed.binding
  enrichers : List.Forall₂ Enricher.RelaxedTo builder.enrichers relaxed.enrichers
  dates_eq : relaxed.dates = builder.dates
  idField_eq : relaxed.idField = builder.idField

/-! ## Collecting -/

/-- The same leaf, met by the same field relaxed. -/
structure Event.RelaxedTo (event relaxed : Event) : Prop where
  leaf_eq : relaxed.leaf = event.leaf
  field : event.field.RelaxedTo relaxed.field

theorem Binding.RelaxedTo.events {binding relaxed : Binding} (h : binding.RelaxedTo relaxed)
    (tree : Tree) : List.Forall₂ Event.RelaxedTo (binding.events tree) (relaxed.events tree) := by
  refine List.rel_flatMap h.paths fun path path' related => ?_
  have segments_eq : path'.segments = path.segments := congrArg pathSegments related.path_eq
  rw [segments_eq]
  refine List.rel_flatMap (List.forall₂_same.mpr fun leaf _ => rfl) fun leaf leaf' same => ?_
  subst same
  exact List.rel_map (fun _ _ field => ⟨rfl, field⟩) related.fields

/-- **A relaxed event** has the same value, if it is not dropped. -/
theorem Event.RelaxedTo.outcome {event relaxed : Event} (h : event.RelaxedTo relaxed)
    (dates : DatePolicy) : Tolerates Eq (event.outcome dates) (relaxed.outcome dates) := by
  obtain ⟨leaf, field⟩ := event
  obtain ⟨leaf', field'⟩ := relaxed
  obtain ⟨rfl, related⟩ := h
  cases leaf' with
  | scalar text =>
    exact related.tolerates (coerceText dates · text)
      (coerce_tolerant textRendering dates field text)
  | handle description =>
    exact related.tolerates (reject · description none) (reject_tolerant field description none)

/-- The pushes of events, or the first error among them. -/
def eventPushes (dates : DatePolicy) (events : List Event) :
    Except IngestError (List (Field × String)) :=
  match events.findSome? (Event.failure? dates) with
  | some error => .error error
  | none => .ok (events.filterMap (Event.push? dates))

/-- The push that the outcome of an event comes to. -/
def Event.pushOf (event : Event) (value? : Option String) : List (Field × String) :=
  (value?.map fun value => (event.field, value)).toList

theorem eventPushes_cons (dates : DatePolicy) (event : Event) (rest : List Event) :
    eventPushes dates (event :: rest) = do
      let value? ← event.outcome dates
      let later ← eventPushes dates rest
      return event.pushOf value? ++ later := by
  rw [eventPushes, List.findSome?_cons, List.filterMap_cons, Event.failure?, Event.push?]
  cases event.outcome dates with
  | error error => rfl
  | ok value? =>
    show _ = (eventPushes dates rest >>= fun later => pure (event.pushOf value? ++ later))
    rw [eventPushes]
    dsimp only
    cases rest.findSome? (Event.failure? dates) with
    | some error => rfl
    | none => cases value? <;> rfl

/-- **The events of a relaxed builder** push the same. -/
theorem eventPushes_tolerates {events relaxed : List Event}
    (h : List.Forall₂ Event.RelaxedTo events relaxed) (dates : DatePolicy) :
    Tolerates SamePushes (eventPushes dates events) (eventPushes dates relaxed) := by
  induction h with
  | nil => exact .given rfl
  | @cons event event' rest rest' first _ ih =>
    rw [eventPushes_cons, eventPushes_cons]
    refine (first.outcome dates).bind fun value? value?' same => ih.bind fun later later' alike => ?_
    subst same
    refine .given (SamePushes.append ?_ alike)
    cases value? with
    | none => rfl
    | some value =>
      show [(event'.field.plain, value)] = [(event.field.plain, value)]
      rw [first.field.plain_eq]

/-! ## Enriching -/

/-- **A contribution to a relaxed field** is the same, if it is not dropped. -/
theorem Contribution.RelaxedTo.pushes {contribution relaxed : Contribution}
    (h : contribution.RelaxedTo relaxed) (dates : DatePolicy) :
    Tolerates SamePushes (contribution.pushes dates) (relaxed.pushes dates) := by
  have coerced := h.field.tolerates (coerceText dates · contribution.value)
    (coerce_tolerant textRendering dates contribution.field contribution.value)
  unfold Contribution.pushes
  rw [h.value_eq]
  refine coerced.bind fun value? value?' same => ?_
  subst same
  cases value? with
  | none => exact .given rfl
  | some value =>
    refine .given ?_
    show [(relaxed.field.plain, value)] = [(contribution.field.plain, value)]
    rw [h.field.plain_eq]

theorem contributionPushes_tolerates {contributions relaxed : List Contribution}
    (h : List.Forall₂ Contribution.RelaxedTo contributions relaxed) (dates : DatePolicy) :
    Tolerates SamePushes (contributionPushes dates contributions)
      (contributionPushes dates relaxed) := by
  induction h with
  | nil => exact .given rfl
  | cons first _ ih =>
    rw [contributionPushes, contributionPushes]
    exact (first.pushes dates).bind fun own own' same => ih.bind fun later later' alike =>
      .given (same.append alike)

/-- **A relaxed enricher**, called with the same text, pushes the same. -/
theorem Enricher.RelaxedTo.pushes {enricher relaxed : Enricher} (h : enricher.RelaxedTo relaxed)
    (dates : DatePolicy) (text : String) :
    Tolerates SamePushes (enricher.pushes dates text) (relaxed.pushes dates text) := by
  have answers := h.answers text
  unfold Enricher.pushes
  rw [h.name_eq]
  generalize enricher.enrich text = strict at answers ⊢
  generalize relaxed.enrich text = lenient at answers ⊢
  cases answers with
  | failed reason => exact .failed _
  | contributed related => exact contributionPushes_tolerates related dates

/-- **Relaxed enrichers**, called with the same values, push the same: what each pushes, the next is
called with. -/
theorem contributedPushes_tolerates {enrichers relaxed : List Enricher}
    (h : List.Forall₂ Enricher.RelaxedTo enrichers relaxed) (dates : DatePolicy)
    (values : List String) :
    Tolerates (fun pushes pushes' => SamePushes pushes.flatten pushes'.flatten)
      (contributedPushes dates values enrichers) (contributedPushes dates values relaxed) := by
  induction h generalizing values with
  | nil => exact .given rfl
  | cons first _ ih =>
    rw [contributedPushes, contributedPushes]
    refine (first.pushes dates (joinValues values)).bind fun own own' same => ?_
    rw [same.values_eq]
    refine (ih (values ++ own.map Prod.snd)).bind fun later later' alike => .given ?_
    rw [List.flatten_cons, List.flatten_cons]
    exact same.append alike

/-! ## Building -/

namespace Builder

/-- **The answer of a build, said without a scratch.** -/
theorem buildTree_eq (builder : Builder) (tree : Tree) (scratch : Scratch) :
    (builder.buildTree tree scratch).1 = do
      let pushes ← eventPushes builder.dates (builder.binding.events tree)
      let doc := Document.empty.pushAll pushes
      let contributed ← contributedPushes builder.dates (builder.startValues doc) builder.enrichers
      let doc := doc.pushAll contributed.flatten
      return ⟨builder.idField.bind doc.first?, doc.line⟩ := by
  have run := forM_collectEvent_on builder (builder.binding.events tree) Scratch.empty
  rw [← collect_eq_forM_events] at run
  rw [eventPushes]
  cases failed : (builder.binding.events tree).findSome? (Event.failure? builder.dates) with
  | some error =>
    rw [failed] at run
    obtain ⟨used, run⟩ := run
    show ((builder.assemble tree).on Scratch.empty).1 = _
    rw [assemble_on, BuildM.on_bind, run]
    rfl
  | none =>
    rw [failed] at run
    let doc := Document.empty.pushAll (builder.pushesOf tree)
    have document_eq : (pushOnto Scratch.empty ((builder.binding.events tree).filterMap
        (Event.push? builder.dates))).document = doc := rfl
    rw [builder.buildTree_of_collects run, document_eq]
    show _ = (contributedPushes builder.dates (builder.startValues doc) builder.enrichers >>= _)
    cases contributedPushes builder.dates (builder.startValues doc) builder.enrichers <;> rfl

variable {builder lenient : Builder}

theorem RelaxedTo.startValues (h : builder.RelaxedTo lenient) {doc doc' : Document}
    (alike : doc'.plain = doc.plain) : lenient.startValues doc' = builder.startValues doc := by
  have needs_eq : lenient.enrichers.any (·.needsAggregate) =
      builder.enrichers.any (·.needsAggregate) := by
    have enrichers := h.enrichers
    generalize builder.enrichers = strict at enrichers ⊢
    generalize lenient.enrichers = relaxed at enrichers ⊢
    induction enrichers with
    | nil => rfl
    | cons first _ ih => rw [List.any_cons, List.any_cons, ih, first.needsAggregate_eq]
  rw [Builder.startValues, Builder.startValues, needs_eq, ← doc'.aggregated_plain, alike,
    doc.aggregated_plain]

/-- **A relaxed builder tolerates more, and answers the same otherwise.** -/
theorem RelaxedTo.buildTree (h : builder.RelaxedTo lenient) (tree : Tree) (scratch : Scratch) :
    Tolerates Eq (builder.buildTree tree scratch).1 (lenient.buildTree tree scratch).1 := by
  rw [buildTree_eq, buildTree_eq, h.dates_eq, h.idField_eq]
  refine (eventPushes_tolerates (h.binding.events tree) builder.dates).bind
    fun pushes pushes' same => ?_
  have alike : (Document.empty.pushAll pushes').plain = (Document.empty.pushAll pushes).plain :=
    Document.pushAll_same rfl same
  dsimp only
  rw [h.startValues alike]
  refine (contributedPushes_tolerates h.enrichers builder.dates _).bind
    fun contributed contributed' more => .given ?_
  have finished := Document.pushAll_same alike more
  rw [← Document.line_plain, ← finished, Document.line_plain,
    ← funext (Document.first?_plain (Document.pushAll _ contributed.flatten)), ← finished,
    funext (Document.first?_plain _)]

/-! ## Targets -/

/-- The fields that a relaxed builder fills are those of the strict one, relaxed. -/
theorem RelaxedTo.isTarget (h : builder.RelaxedTo lenient) {relaxed : Field}
    (target : lenient.IsTarget relaxed) :
    ∃ field, builder.IsTarget field ∧ field.RelaxedTo relaxed := by
  cases target with
  | @bound path' _ reads fills =>
    obtain ⟨path, reads, same⟩ := exists_related h.binding.paths reads
    obtain ⟨field, fills, related⟩ := exists_related same.fields fills
    exact ⟨field, .bound reads fills, related⟩
  | @contributed enricher' text contributions' contribution' runs answers contributes =>
    obtain ⟨enricher, runs, same⟩ := exists_related h.enrichers runs
    have related := same.answers text
    rw [answers] at related
    generalize strict_eq : enricher.enrich text = strict at related
    cases related with
    | contributed related =>
      obtain ⟨contribution, contributes, related⟩ := exists_related related contributes
      exact ⟨contribution.field, .contributed runs strict_eq contributes, related.field⟩

/-! ## Tolerance -/

/-- **Tolerance only turns malformed values into drops.** Let a builder be relaxed: some of the
fields that it fills, bound or contributed to, are made to ignore malformed values. Whatever tree
the strict builder builds, the tolerant one builds with the same id and line, and what the strict
one fails with, other than a malformed value, the tolerant one fails with too. If the tolerant one
fails with a malformed value, then the field that is named is one that both fill and that minds
malformed values. For a single field, the flag turns a refusal of a malformed value into a drop, or
makes no difference; that a type is unsupported is said whatever the flag. -/
theorem buildTree_tolerance (h : builder.RelaxedTo lenient) (tree : Tree) (scratch : Scratch) :
    (∀ built, (builder.buildTree tree scratch).1 = .ok built →
      (lenient.buildTree tree scratch).1 = .ok built) ∧
    (∀ error, (builder.buildTree tree scratch).1 = .error error → error.isMalformed = false →
      (lenient.buildTree tree scratch).1 = .error error) ∧
    (∀ name typeName value fault,
      (lenient.buildTree tree scratch).1 = .error (.malformed name typeName value fault) →
      ∃ field, builder.IsTarget field ∧ lenient.IsTarget field ∧
        field.ignoresMalformed = false ∧ field.name = name ∧ field.typeName = typeName) ∧
    (∀ dates (field : Field) raw,
      coerceText dates field.tolerant raw = coerceText dates field raw ∨
        BecomesDrop field (coerceText dates field raw) (coerceText dates field.tolerant raw)) ∧
    ∀ dates (field : Field) flag type raw, field.type = some type → type ∈ unsupportedTypes →
      Text.isBlankText raw = false →
      coerceText dates { field with ignoreMalformed := flag } raw =
        .error (.unsupportedType field.name type) := by
  have answers := h.buildTree tree scratch
  refine ⟨fun built strict => ?_, fun error strict other => ?_,
    fun name typeName value fault failed => ?_,
    fun dates field raw => coerce_tolerant textRendering dates field raw,
    fun dates field flag type raw declared unsupported visible =>
      coerce_unsupported textRendering dates flag declared unsupported visible⟩
  · rw [strict] at answers
    generalize (lenient.buildTree tree scratch).1 = answer at answers ⊢
    cases answers with
    | given same => rw [same]
  · rw [strict] at answers
    generalize (lenient.buildTree tree scratch).1 = answer at answers ⊢
    cases answers with
    | failed => rfl
    | tolerated => cases other
  · cases lenient.buildTree_eq_error failed with
    | @refusal relaxed _ _ target refused =>
      cases refused with
      | malformed _ strict =>
        obtain ⟨field, fills, related⟩ := h.isTarget target
        obtain rfl := related.eq_of_strict strict
        exact ⟨_, fills, target, strict, rfl, rfl⟩

/-- A builder for records with an age and a rank, which counts the words of a document. -/
def rankBuilder (age words : Field) : Builder where
  binding := ⟨"people", "person",
    [⟨"age", [age]⟩, ⟨"rank", [Field.ofType "rank" .byte]⟩]⟩
  enrichers := [.tokenCount words]
  dates := .textOnly
  idField := some "rank"

/-- The builder that minds all malformed values. -/
def strictRanks : Builder := rankBuilder (Field.ofType "age" .byte) (Field.ofType "words" .byte)

/-- The builder that minds malformed ranks only. -/
def tolerantRanks : Builder :=
  rankBuilder (Field.ofType "age" .byte).tolerant (Field.ofType "words" .byte).tolerant

/-- A record that both build. -/
def goodRank : Tree := .record [("age", .scalar "31"), ("rank", .scalar "7")]

/-- A record whose age and rank are malformed. -/
def badRank : Tree := .record [("age", .scalar "300"), ("rank", .scalar "seventh")]

/-- The good record is built by both alike; for the bad one, only the rank is left to blame. -/
theorem buildTree_tolerance_ranks :
    strictRanks.RelaxedTo tolerantRanks ∧
    (tolerantRanks.buildTree goodRank Scratch.empty).1 =
      .ok ⟨some "7", "\x7b\"age\":\"31\",\"rank\":\"7\",\"words\":\"0\"\x7d"⟩ ∧
    (tolerantRanks.buildTree badRank Scratch.empty).1 =
      .error (.malformed "rank" "byte" "seventh" (some (.integer .invalidDigit))) ∧
    ∃ field, strictRanks.IsTarget field ∧ tolerantRanks.IsTarget field ∧
      field.ignoresMalformed = false ∧ field.name = "rank" ∧ field.typeName = "byte" := by
  have relaxed : strictRanks.RelaxedTo tolerantRanks := by
    refine ⟨⟨rfl, rfl, ?_⟩, ?_, rfl, rfl⟩
    · exact .cons ⟨rfl, .cons (.inr rfl) .nil⟩ (.cons ⟨rfl, .cons (.inl rfl) .nil⟩ .nil)
    · exact .cons ⟨rfl, rfl, fun _ => .contributed (.cons ⟨.inr rfl, rfl⟩ .nil)⟩ .nil
  have built : (strictRanks.buildTree goodRank Scratch.empty).1 =
      .ok ⟨some "7", "\x7b\"age\":\"31\",\"rank\":\"7\",\"words\":\"0\"\x7d"⟩ :=
    eq_ok_of_toOption (by decide +kernel)
  have failed : (tolerantRanks.buildTree badRank Scratch.empty).1 =
      .error (.malformed "rank" "byte" "seventh" (some (.integer .invalidDigit))) := by
    rfl
  refine ⟨relaxed, (buildTree_tolerance relaxed goodRank Scratch.empty).1 _ built, failed, ?_⟩
  exact (buildTree_tolerance relaxed badRank Scratch.empty).2.2.1 _ _ _ _ failed

end Builder

end Intake
