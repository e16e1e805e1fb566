import Intake.Proofs.Build.Collection

/-!
# What enrichment adds

The aggregate text is put together value by value, a space going before a value only if there is
text already. No value is empty, so what comes out is the join of all values with single spaces
(`appendValue_joinValues`), and it can be said without a buffer which text an enricher is called
with: the join of the aggregated values and of everything that the enrichers before it contributed,
values that the document held already among them.

`contributedPushes` says so, enricher by enricher, and the run of enrichers is shown to follow it
(`Builder.forM_runEnricher_contributes`); so is the whole build (`Builder.buildTree_of_collects`).
-/

namespace Intake

open Intake.Schema Intake.Calendar

/-! ## Joined values -/

/-- The values with single spaces between them. -/
def joinValues (values : List String) : String := " ".intercalate values

/-- Is no value blank? -/
def AreVisible (values : List String) : Prop := ∀ value ∈ values, Text.isBlankText value = false

theorem AreVisible.nil : AreVisible [] := fun _ mem => absurd mem List.not_mem_nil

theorem AreVisible.singleton {value : String} (h : Text.isBlankText value = false) :
    AreVisible [value] := by
  intro v mem
  rwa [List.mem_singleton.mp mem]

theorem AreVisible.append {values more : List String} (h : AreVisible values)
    (h' : AreVisible more) : AreVisible (values ++ more) :=
  fun value mem => (List.mem_append.mp mem).elim (h value) (h' value)

theorem joinValues_append_singleton {values : List String} (some_value : values ≠ [])
    (value : String) : joinValues (values ++ [value]) = joinValues values ++ " " ++ value := by
  rw [joinValues, String.intercalate_append_of_ne_nil some_value (by simp),
    String.intercalate_singleton]
  rfl

theorem joinValues_eq_empty_iff {values : List String} (visible : AreVisible values) :
    joinValues values = "" ↔ values = [] := by
  constructor
  · intro nothing
    match values with
    | [] => rfl
    | value :: rest =>
      have value_visible := visible value List.mem_cons_self
      have start_empty : value = "" := by
        cases rest with
        | nil => simpa [joinValues] using nothing
        | cons second rest =>
          rw [joinValues, String.intercalate_cons_cons, String.append_eq_empty_iff,
            String.append_eq_empty_iff] at nothing
          exact nothing.1.1
      rw [start_empty] at value_visible
      cases value_visible
  · rintro rfl
    rfl

/-- **A value is added to the join.** -/
theorem appendValue_joinValues {values : List String} (visible : AreVisible values)
    (value : String) : appendValue (joinValues values) value = joinValues (values ++ [value]) := by
  rw [appendValue]
  split
  · next nothing =>
    rw [(joinValues_eq_empty_iff visible).mp nothing, List.nil_append, joinValues,
      String.intercalate_singleton]
  · next something =>
    have some_value : values ≠ [] := fun none =>
      something ((joinValues_eq_empty_iff visible).mpr none)
    rw [joinValues_append_singleton some_value]

theorem foldl_appendValue {values : List String} (visible : AreVisible values) :
    values.foldl appendValue "" = joinValues values := by
  -- From any buffer that is a join already, not only from the empty one.
  suffices ∀ before rest, AreVisible (before ++ rest) →
      rest.foldl appendValue (joinValues before) = joinValues (before ++ rest) from
    this [] values visible
  intro before rest all_visible
  induction rest generalizing before with
  | nil => rw [List.append_nil]; rfl
  | cons value rest ih =>
    have before_visible : AreVisible before := fun v mem =>
      all_visible v (List.mem_append_left _ mem)
    have one_more : before ++ value :: rest = before ++ [value] ++ rest := by simp
    rw [one_more] at all_visible ⊢
    rw [List.foldl_cons, appendValue_joinValues before_visible, ih _ all_visible]

namespace Document

/-- What a document of visible pushes holds is visible. -/
theorem Holds.aggregated_visible {doc : Document} {pushes : List (Field × String)}
    (h : doc.Holds pushes) (visible : ∀ push ∈ pushes, Text.isBlankText push.2 = false) :
    AreVisible doc.aggregated := by
  intro value mem
  obtain ⟨entry, flagged, value_mem⟩ := List.mem_flatMap.mp mem
  have pair_mem : (entry.field.name, entry.values) ∈ doc.pairs :=
    List.mem_map.mpr ⟨entry, (List.mem_filter.mp flagged).1, rfl⟩
  rw [h.pairs_eq] at pair_mem
  obtain ⟨name, -, pair_eq⟩ := List.mem_map.mp pair_mem
  rw [← (Prod.mk.inj pair_eq).2] at value_mem
  obtain ⟨push, pushed, -, rfl⟩ := mem_pushedValues.mp value_mem
  exact visible push pushed

end Document

/-! ## Contributions -/

/-- The push that a contribution comes to, if it is not dropped. -/
def Contribution.pushes (dates : DatePolicy) (contribution : Contribution) :
    Except IngestError (List (Field × String)) := do
  match ← coerceText dates contribution.field contribution.value with
  | some value => return [(contribution.field, value)]
  | none => return []

/-- The pushes that contributions come to, in order. The first error is the answer. -/
def contributionPushes (dates : DatePolicy) :
    List Contribution → Except IngestError (List (Field × String))
  | [] => .ok []
  | contribution :: rest => do
    let own ← contribution.pushes dates
    let later ← contributionPushes dates rest
    return own ++ later

/-- The pushes of an enricher that is called with a text. -/
def Enricher.pushes (dates : DatePolicy) (enricher : Enricher) (text : String) :
    Except IngestError (List (Field × String)) :=
  match enricher.enrich text with
  | .error reason => .error (.enricher enricher.name reason)
  | .ok contributions => contributionPushes dates contributions

/-- The pushes of some enrichers, one list for each. An enricher is called with the join of the
values at hand and of all that those before it pushed. -/
def contributedPushes (dates : DatePolicy) :
    List String → List Enricher → Except IngestError (List (List (Field × String)))
  | _, [] => .ok []
  | values, enricher :: rest => do
    let own ← enricher.pushes dates (joinValues values)
    let later ← contributedPushes dates (values ++ own.map Prod.snd) rest
    return own :: later

/-! ## Contributed values are visible -/

/-- If it is pushes, their values are visible. -/
def VisiblePushes (answer : Except IngestError (List (Field × String))) : Prop :=
  ∀ pushes, answer = .ok pushes → AreVisible (pushes.map Prod.snd)

theorem Contribution.pushes_visible (dates : DatePolicy) (contribution : Contribution) :
    VisiblePushes (contribution.pushes dates) := by
  intro pushes h
  rw [Contribution.pushes] at h
  cases coerced : coerceText dates contribution.field contribution.value with
  | error error => rw [coerced] at h; cases h
  | ok value? =>
    rw [coerced] at h
    cases value? with
    | none => cases h; exact .nil
    | some value => cases h; exact .singleton (coerceText_visible coerced)

theorem contributionPushes_visible (dates : DatePolicy) (contributions : List Contribution) :
    VisiblePushes (contributionPushes dates contributions) := by
  induction contributions with
  | nil =>
    intro pushes h
    cases h
    exact .nil
  | cons contribution rest ih =>
    intro pushes h
    rw [contributionPushes] at h
    cases own_eq : contribution.pushes dates with
    | error error => rw [own_eq] at h; cases h
    | ok own =>
      cases later_eq : contributionPushes dates rest with
      | error error => rw [own_eq, later_eq] at h; cases h
      | ok later =>
        rw [own_eq, later_eq] at h
        cases h
        rw [List.map_append]
        exact (contribution.pushes_visible dates own own_eq).append (ih later later_eq)

theorem Enricher.pushes_visible (dates : DatePolicy) (enricher : Enricher) (text : String) :
    VisiblePushes (enricher.pushes dates text) := by
  intro pushes h
  unfold Enricher.pushes at h
  split at h
  · cases h
  · exact contributionPushes_visible dates _ pushes h

/-! ## Steps that contribute -/

/-- The step fails with the error of the answer, or adds the pushes of the answer to the document
and their values to the aggregate text. -/
def BuildM.Contributes (step : BuildM Unit) (doc : Document) (values : List String)
    (answer : Except IngestError (List (Field × String))) : Prop :=
  match answer with
  | .error error => ∃ used, step.on ⟨doc, joinValues values⟩ = (.error error, used)
  | .ok pushes => step.on ⟨doc, joinValues values⟩ =
      (.ok (), ⟨doc.pushAll pushes, joinValues (values ++ pushes.map Prod.snd)⟩)

namespace BuildM.Contributes

variable {doc : Document} {values : List String}

theorem pure : Contributes (pure ()) doc values (.ok []) := by
  show (Pure.pure () : BuildM Unit).on _ = _
  rw [on_pure, List.map_nil, List.append_nil]
  rfl

/-- One step after another contributes what both do. -/
theorem bind {step next : BuildM Unit} {first : Except IngestError (List (Field × String))}
    {second : List (Field × String) → Except IngestError (List (Field × String))}
    (h : step.Contributes doc values first)
    (h' : ∀ own, first = .ok own →
      next.Contributes (doc.pushAll own) (values ++ own.map Prod.snd) (second own)) :
    (step >>= fun _ => next).Contributes doc values (do
      let own ← first
      let later ← second own
      return own ++ later) := by
  cases first with
  | error error =>
    obtain ⟨used, run⟩ := h
    exact ⟨used, by rw [on_bind, run]⟩
  | ok own =>
    have run : step.on _ = _ := h
    have more := h' own rfl
    show (step >>= fun _ => next).Contributes doc values
      (second own >>= fun later => Pure.pure (own ++ later))
    cases later_eq : second own with
    | error error =>
      -- What the first step pushed stays in the scratch, but there is no answer to see it in.
      rw [later_eq] at more
      obtain ⟨used, later_run⟩ := more
      exact ⟨used, by rw [on_bind, run]; exact later_run⟩
    | ok later =>
      rw [later_eq] at more
      have later_run : next.on _ = _ := more
      show (step >>= fun _ => next).on _ = _
      rw [on_bind, run]
      show next.on _ = _
      rw [later_run, List.map_append, ← List.append_assoc, Document.pushAll, Document.pushAll,
        Document.pushAll, List.foldl_append]

end BuildM.Contributes

namespace Builder

variable (builder : Builder) (doc : Document) {values : List String}

/-- **One contribution** fails, is dropped, or is pushed and goes to the end of the text. -/
theorem contribute_contributes (visible : AreVisible values) (contribution : Contribution) :
    (builder.contribute contribution).Contributes doc values
      (contribution.pushes builder.dates) := by
  rw [Contribution.pushes]
  cases coerced : coerceText builder.dates contribution.field contribution.value with
  | error error =>
    refine ⟨⟨doc, joinValues values⟩, ?_⟩
    rw [contribute, BuildM.on_bind, BuildM.on_ofExcept, coerced]
  | ok value? =>
    cases value? with
    | none =>
      have dropped : BuildM.Contributes (pure ()) doc values (.ok []) := .pure
      show (builder.contribute contribution).on _ = _
      rw [contribute, BuildM.on_bind, BuildM.on_ofExcept, coerced]
      exact dropped
    | some value =>
      show (builder.contribute contribution).on _ =
        (.ok (), ⟨doc.pushAll [(contribution.field, value)], joinValues (values ++ [value])⟩)
      rw [contribute, BuildM.on_bind, BuildM.on_ofExcept, coerced]
      show (aggregateValue value >>= fun _ => pushValue contribution.field value).on _ = _
      rw [BuildM.on_bind, aggregateValue_on]
      simp only [pushValue_on, appendValue_joinValues visible]
      rfl

/-- **The contributions of an enricher**, one after the other. -/
theorem forM_contribute_contributes (visible : AreVisible values)
    (contributions : List Contribution) :
    (contributions.forM builder.contribute).Contributes doc values
      (contributionPushes builder.dates contributions) := by
  induction contributions generalizing doc values with
  | nil => exact .pure
  | cons contribution rest ih =>
    refine (builder.contribute_contributes doc visible contribution).bind fun own own_eq => ?_
    exact ih (doc.pushAll own) (visible.append (contribution.pushes_visible _ own own_eq))

/-- What running an enricher does: it is called with the aggregate text. -/
theorem runEnricher_on (enricher : Enricher) (scratch : Scratch) :
    (builder.runEnricher enricher).on scratch =
      match enricher.enrich scratch.aggregate with
      | .error reason => (.error (.enricher enricher.name reason), scratch)
      | .ok contributions => (contributions.forM builder.contribute).on scratch := by
  rw [runEnricher, BuildM.on_bind, BuildM.on_get]
  dsimp only
  cases enricher.enrich scratch.aggregate <;> rfl

/-- **One enricher** is called with the join of the values, and what it contributes is taken in. -/
theorem runEnricher_contributes (visible : AreVisible values) (enricher : Enricher) :
    (builder.runEnricher enricher).Contributes doc values
      (enricher.pushes builder.dates (joinValues values)) := by
  have called := builder.runEnricher_on enricher ⟨doc, joinValues values⟩
  have taken := builder.forM_contribute_contributes doc visible
  unfold Enricher.pushes BuildM.Contributes
  unfold BuildM.Contributes at taken
  rw [called]
  dsimp only
  cases enricher.enrich (joinValues values) with
  | error reason => exact ⟨_, rfl⟩
  | ok contributions => exact taken contributions

/-- The first enricher's pushes come before those of the others. -/
theorem flatten_contributedPushes_cons (dates : DatePolicy) (values : List String)
    (enricher : Enricher) (rest : List Enricher) :
    (contributedPushes dates values (enricher :: rest)).map List.flatten = do
      let own ← enricher.pushes dates (joinValues values)
      let later ← (contributedPushes dates (values ++ own.map Prod.snd) rest).map List.flatten
      return own ++ later := by
  rw [contributedPushes]
  cases enricher.pushes dates (joinValues values) with
  | error error => rfl
  | ok own =>
    show Except.map List.flatten (contributedPushes dates (values ++ own.map Prod.snd) rest >>= _) =
      (contributedPushes dates (values ++ own.map Prod.snd) rest).map List.flatten >>= _
    cases contributedPushes dates (values ++ own.map Prod.snd) rest <;> rfl

/-- **Enrichers one after the other.** -/
theorem forM_runEnricher_contributes (visible : AreVisible values) (enrichers : List Enricher) :
    (enrichers.forM builder.runEnricher).Contributes doc values
      ((contributedPushes builder.dates values enrichers).map List.flatten) := by
  induction enrichers generalizing doc values with
  | nil => exact .pure
  | cons enricher rest ih =>
    rw [flatten_contributedPushes_cons]
    refine (builder.runEnricher_contributes doc visible enricher).bind fun own own_eq => ?_
    exact ih (doc.pushAll own) (visible.append (enricher.pushes_visible _ _ own own_eq))

/-! ## The pass as a whole -/

/-- The values that the aggregate text begins with: those of the aggregated fields, if any enricher
reads the text. -/
def startValues : List String :=
  if builder.enrichers.any (·.needsAggregate) then doc.aggregated else []

/-- Enrichment by some of the enrichers: the aggregate text is put together if any enricher of the
builder needs it, also one that is not among them. -/
def enrichBy (enrichers : List Enricher) : BuildM Unit := do
  if builder.enrichers.any (·.needsAggregate) then
    modify fun scratch =>
      { scratch with aggregate := scratch.document.appendAggregate scratch.aggregate }
  enrichers.forM builder.runEnricher

theorem enrich_eq_enrichBy : builder.enrich = builder.enrichBy builder.enrichers := rfl

/-- If an enricher reads the aggregate text, it begins with the values of the aggregated fields. -/
theorem startValues_of_mem {enricher : Enricher} (mem : enricher ∈ builder.enrichers)
    (needs : enricher.needsAggregate = true) : builder.startValues doc = doc.aggregated :=
  if_pos (List.any_eq_true.mpr ⟨enricher, mem, needs⟩)

variable {doc}

theorem startValues_visible (visible : AreVisible doc.aggregated) :
    AreVisible (builder.startValues doc) := by
  unfold startValues
  split
  · exact visible
  · exact .nil

/-- The enrichers find the values of the aggregated fields joined. -/
theorem enrichBy_on (visible : AreVisible doc.aggregated) (enrichers : List Enricher) :
    (builder.enrichBy enrichers).on ⟨doc, ""⟩ =
      (enrichers.forM builder.runEnricher).on ⟨doc, joinValues (builder.startValues doc)⟩ := by
  unfold enrichBy startValues
  dsimp only
  split
  · rw [BuildM.on_bind, BuildM.on_modify, ← foldl_appendValue visible]
    rfl
  · rfl

/-- What collecting leaves, if it succeeds: the document of the pushes, and no aggregate text. -/
theorem collect_on_eq_ok {tree : Tree} {collected : Scratch}
    (collects : (builder.collect tree).on Scratch.empty = (.ok (), collected)) :
    collected = ⟨Document.empty.pushAll (builder.pushesOf tree), ""⟩ := by
  have run := forM_collectEvent_on builder (builder.binding.events tree) Scratch.empty
  rw [← collect_eq_forM_events, collects] at run
  split at run
  · obtain ⟨used, run⟩ := run
    cases run
  · exact (Prod.mk.inj run).2

section

variable {tree : Tree} {collected : Scratch}
  (collects : (builder.collect tree).on Scratch.empty = (.ok (), collected))

include collects

theorem collected_visible : AreVisible collected.document.aggregated := by
  have pushes_visible := builder.pushesOf_visible tree
  rw [builder.collect_on_eq_ok collects]
  exact (Document.pushAll_holds pushes_visible).aggregated_visible pushes_visible

/-- Any number of the enrichers, on what was collected. -/
theorem enrichBy_collected (enrichers : List Enricher) :
    (builder.enrichBy enrichers).on collected =
      (enrichers.forM builder.runEnricher).on
        ⟨collected.document, joinValues (builder.startValues collected.document)⟩ := by
  have no_text : collected = ⟨collected.document, ""⟩ := by
    rw [builder.collect_on_eq_ok collects]
  rw [← builder.enrichBy_on (builder.collected_visible collects), ← no_text]

theorem enrichers_contribute (enrichers : List Enricher) :
    (enrichers.forM builder.runEnricher).Contributes collected.document
      (builder.startValues collected.document)
      ((contributedPushes builder.dates (builder.startValues collected.document) enrichers).map
        List.flatten) :=
  builder.forM_runEnricher_contributes collected.document
    (builder.startValues_visible (builder.collected_visible collects)) enrichers

/-- If the enrichers succeed, what they leave is what they contributed. -/
theorem enrichBy_eq_ok {enrichers : List Enricher} {found : Scratch}
    (reached : (builder.enrichBy enrichers).on collected = (.ok (), found)) :
    ∃ pushes,
      contributedPushes builder.dates (builder.startValues collected.document) enrichers =
          .ok pushes ∧
        found = ⟨collected.document.pushAll pushes.flatten,
          joinValues (builder.startValues collected.document ++ pushes.flatten.map Prod.snd)⟩ := by
  have run := builder.enrichers_contribute collects enrichers
  unfold BuildM.Contributes at run
  rw [← builder.enrichBy_collected collects, reached] at run
  cases pushes_eq : contributedPushes builder.dates (builder.startValues collected.document)
      enrichers with
  | error error =>
    rw [pushes_eq] at run
    obtain ⟨used, run⟩ := run
    cases run
  | ok pushes =>
    rw [pushes_eq] at run
    exact ⟨pushes, rfl, (Prod.mk.inj run).2⟩

/-- The enrichers one after the other are some of them and then the others. -/
theorem enrich_on_eq_bind {before after : List Enricher}
    (split_eq : builder.enrichers = before ++ after) :
    builder.enrich.on collected =
      (builder.enrichBy before >>= fun _ => after.forM builder.runEnricher).on collected := by
  rw [enrich_eq_enrichBy, builder.enrichBy_collected collects, split_eq, List.forM_eq_forM,
    List.forM_append, BuildM.on_bind, ← List.forM_eq_forM, BuildM.on_bind,
    builder.enrichBy_collected collects]

/-- After some of the enrichers, the others go on. -/
theorem enrich_on_of_reached {before after : List Enricher} {found : Scratch}
    (split_eq : builder.enrichers = before ++ after)
    (reached : (builder.enrichBy before).on collected = (.ok (), found)) :
    builder.enrich.on collected = (after.forM builder.runEnricher).on found := by
  rw [builder.enrich_on_eq_bind collects split_eq, BuildM.on_bind, reached]

/-- **Some of the enrichers first.** Either one of them fails, and with it the whole pass, or the
others go on with what they contributed. -/
theorem enrich_on_append {before after : List Enricher}
    (split_eq : builder.enrichers = before ++ after) :
    match contributedPushes builder.dates (builder.startValues collected.document) before with
    | .error error => ∃ used, builder.enrich.on collected = (.error error, used)
    | .ok earlier => builder.enrich.on collected =
        (after.forM builder.runEnricher).on ⟨collected.document.pushAll earlier.flatten,
          joinValues (builder.startValues collected.document ++
            earlier.flatten.map Prod.snd)⟩ := by
  have run := builder.enrichers_contribute collects before
  unfold BuildM.Contributes at run
  rw [builder.enrich_on_eq_bind collects split_eq, BuildM.on_bind,
    builder.enrichBy_collected collects]
  cases pushes_eq : contributedPushes builder.dates (builder.startValues collected.document)
      before with
  | error error =>
    rw [pushes_eq] at run
    obtain ⟨used, run⟩ := run
    exact ⟨used, by rw [run]⟩
  | ok earlier =>
    rw [pushes_eq] at run
    have run : (before.forM builder.runEnricher).on _ = _ := run
    rw [run]

/-- **The answer of a build**, once its tree is collected. -/
theorem buildTree_of_collects (scratch : Scratch) :
    (builder.buildTree tree scratch).1 =
      match contributedPushes builder.dates (builder.startValues collected.document)
        builder.enrichers with
      | .error error => .error error
      | .ok pushes =>
        let doc := collected.document.pushAll pushes.flatten
        .ok ⟨builder.idField.bind doc.first?, doc.line⟩ := by
  have pass := builder.enrich_on_append collects (List.append_nil builder.enrichers).symm
  show ((builder.assemble tree).on Scratch.empty).1 = _
  rw [assemble_on, BuildM.on_bind, collects]
  dsimp only
  cases pushes_eq : contributedPushes builder.dates (builder.startValues collected.document)
      builder.enrichers with
  | error error =>
    rw [pushes_eq] at pass
    obtain ⟨used, pass⟩ := pass
    rw [pass]
  | ok pushes =>
    rw [pushes_eq] at pass
    have pass : builder.enrich.on collected = _ := pass
    rw [pass]
    rfl

/-- **What enrichment means.** Let a tree be collected. Each enricher that is reached finds the
document with everything that the enrichers before it pushed, and is called with the join of the
aggregated values, if any enricher needs them, and of all values that were pushed since. The build
answers the first error, of an enricher or of a contribution, or else the line and the id of the
collected document with all contributions pushed to it in order. -/
theorem enrichment_eq_reference (scratch : Scratch) :
    (∀ before enricher after found, builder.enrichers = before ++ enricher :: after →
      (builder.enrichBy before).on collected = (.ok (), found) →
      ∃ earlier,
        contributedPushes builder.dates (builder.startValues collected.document) before =
            .ok earlier ∧
          found.document = collected.document.pushAll earlier.flatten ∧
          found.aggregate = " ".intercalate
            (builder.startValues collected.document ++ earlier.flatten.map Prod.snd) ∧
          builder.enrich.on collected =
            (builder.runEnricher enricher >>= fun _ => after.forM builder.runEnricher).on found ∧
          (builder.runEnricher enricher).on found =
            match enricher.enrich found.aggregate with
            | .error reason => (.error (.enricher enricher.name reason), found)
            | .ok contributions => (contributions.forM builder.contribute).on found) ∧
      (builder.buildTree tree scratch).1 =
        match contributedPushes builder.dates (builder.startValues collected.document)
          builder.enrichers with
        | .error error => .error error
        | .ok pushes =>
          let doc := collected.document.pushAll pushes.flatten
          .ok ⟨builder.idField.bind doc.first?, doc.line⟩ := by
  refine ⟨fun before enricher after found split_eq reached => ?_,
    builder.buildTree_of_collects collects scratch⟩
  obtain ⟨earlier, earlier_eq, found_eq⟩ := builder.enrichBy_eq_ok collects reached
  refine ⟨earlier, earlier_eq, by rw [found_eq], by rw [found_eq]; rfl, ?_,
    builder.runEnricher_on enricher found⟩
  exact builder.enrich_on_of_reached collects split_eq reached

end

/-- **A built document is of pushes**, those of the tree and of the enrichers. -/
theorem buildTree_eq_ok_pushed {tree : Tree} {scratch : Scratch} {built : Built}
    (h : (builder.buildTree tree scratch).1 = .ok built) :
    ∃ pushes, built = ⟨builder.idField.bind (Document.empty.pushAll pushes).first?,
      (Document.empty.pushAll pushes).line⟩ := by
  cases collects : (builder.collect tree).on Scratch.empty with
  | mk result collected =>
    cases result with
    | error error =>
      have failed : (builder.buildTree tree scratch).1 = .error error := by
        show ((builder.assemble tree).on Scratch.empty).1 = _
        rw [assemble_on, BuildM.on_bind, collects]
      rw [failed] at h
      cases h
    | ok _ =>
      rw [builder.buildTree_of_collects collects, builder.collect_on_eq_ok collects] at h
      split at h
      · cases h
      · next pushes _ =>
        refine ⟨builder.pushesOf tree ++ pushes.flatten, ?_⟩
        rw [Document.pushAll, List.foldl_append]
        exact (Except.ok.inj h).symm

/-- A result is the value that it has. -/
theorem eq_ok_of_toOption {α : Type} {result : Except IngestError α} {a : α}
    (h : result.toOption = some a) : result = .ok a := by
  cases result with
  | error error => cases h
  | ok b => exact congrArg Except.ok (Option.some.inj h)

/-- The number of words, as an integer. -/
def wordCount : Enricher := .tokenCount (Field.ofType "words" .integer)

/-- Counts the words of titles and bodies twice; the second time, the first count is among them. -/
def countingBuilder : Builder where
  binding := ⟨"books", "book",
    [⟨"title", [{ Field.ofType "title" .text with includeInAggregate := some true }]⟩,
      ⟨"body", [{ Field.ofType "body" .text with includeInAggregate := some true }]⟩,
      ⟨"tags", [Field.ofType "tags" .keyword]⟩]⟩
  enrichers := [wordCount, wordCount]
  dates := .textOnly
  idField := none

/-- A record with a title, a body and tags that are not aggregated. -/
def countedBook : Tree :=
  .record
    [("title", .scalar "Dune"), ("body", .list [.scalar "a desert planet"]),
      ("tags", .scalar "not counted")]

/-- What collecting the record leaves. -/
def countedScratch : Scratch := ((countingBuilder.collect countedBook).on Scratch.empty).2

/-- What the second enricher finds. -/
def recountedScratch : Scratch :=
  ((countingBuilder.enrichBy [wordCount]).on countedScratch).2

/-- The second count is of the four words and of the first count. -/
theorem enrichment_countedBook :
    (countingBuilder.collect countedBook).on Scratch.empty = (.ok (), countedScratch) ∧
      (countingBuilder.enrichBy [wordCount]).on countedScratch = (.ok (), recountedScratch) ∧
      recountedScratch.aggregate = "Dune a desert planet 4" ∧
      (countingBuilder.buildTree countedBook Scratch.empty).1 = .ok ⟨none,
        "\x7b\"title\":\"Dune\",\"body\":\"a desert planet\",\"tags\":\"not counted\"," ++
          "\"words\":[\"4\",\"5\"]\x7d"⟩ := by
  have collects :
      (countingBuilder.collect countedBook).on Scratch.empty = (.ok (), countedScratch) :=
    Prod.ext (eq_ok_of_toOption (by decide +kernel)) rfl
  have reached : (countingBuilder.enrichBy [wordCount]).on countedScratch =
      (.ok (), recountedScratch) :=
    Prod.ext (eq_ok_of_toOption (by decide +kernel)) rfl
  obtain ⟨finds, answers⟩ :=
    countingBuilder.enrichment_eq_reference collects Scratch.empty
  refine ⟨collects, reached, ?_, ?_⟩
  · obtain ⟨earlier, earlier_eq, -, text_eq, -⟩ := finds [wordCount] wordCount [] _ rfl reached
    have text :
        ((contributedPushes countingBuilder.dates
          (countingBuilder.startValues countedScratch.document) [wordCount]).toOption.map
            fun pushes => " ".intercalate (countingBuilder.startValues countedScratch.document ++
              pushes.flatten.map Prod.snd)) = some "Dune a desert planet 4" := by
      decide +kernel
    rw [earlier_eq] at text
    rw [text_eq]
    exact Option.some.inj text
  · rw [answers]
    exact eq_ok_of_toOption (by decide +kernel)

end Builder

end Intake
