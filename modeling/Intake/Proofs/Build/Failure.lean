import Intake.Proofs.Build.Line
import Intake.Proofs.Coercion.Failure

/-!
# How a build fails

Once its text is read, a record fails to build in two ways only: one of the fields that the builder
fills refuses a value, or an enricher gives up (`Builder.buildTree_eq_error`). None of these is an
error of configuration (`Builder.build_error_isConfiguration`), so a run that skips errors never
ends with one of them.
-/

namespace Intake

open Intake.Schema

/-- Every error of the step, on whatever scratch, has the property. -/
def BuildM.FailsOnlyWith {α : Type} (P : IngestError → Prop) (step : BuildM α) : Prop :=
  ∀ scratch error, (step.on scratch).1 = .error error → P error

/-! ## Errors of composed steps -/

namespace BuildM.FailsOnlyWith

variable {α β : Type} {P : IngestError → Prop}

theorem pure (a : α) : FailsOnlyWith P (pure a : BuildM α) := by
  intro scratch error h
  cases h

theorem modify (f : Scratch → Scratch) : FailsOnlyWith P (modify f : BuildM Unit) := by
  intro scratch error h
  cases h

theorem get : FailsOnlyWith P (get : BuildM Scratch) := by
  intro scratch error h
  cases h

theorem throw {error : IngestError} (h : P error) : FailsOnlyWith P (throw error : BuildM α) := by
  intro scratch raised raised_eq
  obtain rfl : error = raised := Except.error.inj raised_eq
  exact h

theorem ofExcept {result : Except IngestError α} (h : ∀ error, result = .error error → P error) :
    FailsOnlyWith P (ofExcept result) :=
  fun _ error raised => h error raised

theorem bind {step : BuildM α} {next : α → BuildM β} (first : step.FailsOnlyWith P)
    (rest : ∀ a, (next a).FailsOnlyWith P) : (step >>= next).FailsOnlyWith P := by
  intro scratch error h
  rw [on_bind] at h
  cases run : step.on scratch with
  | mk result used =>
    cases result with
    | ok a => rw [run] at h; exact rest a used error h
    | error raised =>
      rw [run] at h
      obtain rfl : raised = error := Except.error.inj h
      exact first scratch raised (congrArg Prod.fst run)

theorem forM {l : List α} {f : α → BuildM Unit} (h : ∀ a ∈ l, (f a).FailsOnlyWith P) :
    (l.forM f).FailsOnlyWith P := by
  induction l with
  | nil => exact FailsOnlyWith.pure ()
  | cons a rest ih =>
    exact bind (h a (List.mem_cons_self ..)) fun _ =>
      ih fun b member => h b (List.mem_cons_of_mem _ member)

end BuildM.FailsOnlyWith

/-! ## Errors of a build -/

theorem refuseHandle_eq_error {field : Field} {description : String} {error : IngestError}
    (h : Tree.refuseHandle field description = .error error) :
    IsRefusalOf field description error := by
  unfold Tree.refuseHandle at h
  split at h
  · cases h
  · next strict =>
    obtain rfl := Except.error.inj h
    exact .malformed none (Bool.not_eq_true _ ▸ strict)

namespace Builder

/-- The builder fills the field: it is bound to a path, or an enricher contributes to it. -/
inductive IsTarget (builder : Builder) : Field → Prop where
  | bound {path : PathBinding} {field : Field} (reads : path ∈ builder.binding.paths)
      (fills : field ∈ path.fields) : IsTarget builder field
  | contributed {enricher : Enricher} {text : String} {contributions : List Contribution}
      {contribution : Contribution} (runs : enricher ∈ builder.enrichers)
      (answers : enricher.enrich text = .ok contributions)
      (contributes : contribution ∈ contributions) : IsTarget builder contribution.field

/-- What a build may fail with: the refusal of a field that it fills, or an enricher's reason. -/
inductive IsFailure (builder : Builder) : IngestError → Prop where
  | refusal {field : Field} {raw : String} {error : IngestError} (target : builder.IsTarget field)
      (refused : IsRefusalOf field raw error) : IsFailure builder error
  | enricher {enricher : Enricher} (runs : enricher ∈ builder.enrichers) (reason : String) :
      IsFailure builder (.enricher enricher.name reason)

theorem IsFailure.isConfiguration_eq_false {builder : Builder} {error : IngestError}
    (h : builder.IsFailure error) : error.isConfiguration = false := by
  cases h with
  | refusal _ refused => exact refused.isConfiguration_eq_false
  | enricher => rfl

open BuildM

variable (builder : Builder)

theorem collect_failsOnly (tree : Tree) :
    (builder.collect tree).FailsOnlyWith builder.IsFailure := by
  refine .forM fun path reads => .forM fun leaf _ => .forM fun field fills => ?_
  have target : builder.IsTarget field := .bound reads fills
  cases leaf with
  | scalar text =>
    refine .bind (.ofExcept fun error h => .refusal target (coerce_eq_error h)) fun value? => ?_
    cases value? with
    | some value => exact .modify _
    | none => exact .pure ()
  | handle description =>
    refine .ofExcept fun error h => .refusal target (refuseHandle_eq_error h)

theorem contribute_failsOnly {contribution : Contribution}
    (target : builder.IsTarget contribution.field) :
    (builder.contribute contribution).FailsOnlyWith builder.IsFailure := by
  refine .bind (.ofExcept fun error h => .refusal target (coerce_eq_error h)) fun value? => ?_
  cases value? with
  | some value => exact .bind (.modify _) fun _ => .modify _
  | none => exact .pure ()

theorem runEnricher_failsOnly {enricher : Enricher} (runs : enricher ∈ builder.enrichers) :
    (builder.runEnricher enricher).FailsOnlyWith builder.IsFailure := by
  refine .bind .get fun scratch => ?_
  split
  · exact .throw (.enricher runs _)
  · next answers =>
    exact .forM fun _ contributes =>
      builder.contribute_failsOnly (.contributed runs answers contributes)

theorem enrich_failsOnly : builder.enrich.FailsOnlyWith builder.IsFailure := by
  have enrichers : (builder.enrichers.forM builder.runEnricher).FailsOnlyWith builder.IsFailure :=
    .forM fun enricher runs => builder.runEnricher_failsOnly runs
  unfold enrich
  dsimp only
  split
  · exact .bind (.modify _) fun _ => enrichers
  · exact enrichers

/-- **A build fails with the refusal of a field that it fills, or with an enricher's reason.** -/
theorem buildTree_eq_error {tree : Tree} {scratch : Scratch} {error : IngestError}
    (h : (builder.buildTree tree scratch).1 = .error error) : builder.IsFailure error := by
  have failed : ((builder.collect tree >>= fun _ => builder.enrich).on scratch.clear).1 =
      .error error := by
    have answer : ((builder.assemble tree).on scratch.clear).1 = .error error := h
    rw [assemble_on] at answer
    split at answer
    · cases answer
    · next run =>
      rw [run]
      exact congrArg Except.error (Except.error.inj answer)
  exact (FailsOnlyWith.bind (builder.collect_failsOnly tree) fun _ => builder.enrich_failsOnly)
    scratch.clear error failed

/-- **No error of a build is one of configuration.** -/
theorem build_error_isConfiguration {source : String} {error : IngestError}
    (h : builder.build source = .error error) : error.isConfiguration = false := by
  unfold build buildText at h
  split at h
  · obtain rfl := Except.error.inj h
    rfl
  · exact (builder.buildTree_eq_error h).isConfiguration_eq_false

end Builder

end Intake
