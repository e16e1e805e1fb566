import Intake.Proofs.Build.Tolerance
import Intake.Proofs.Calendar.Policy
import Intake.Except

/-!
# Letting numbers count as dates

A builder that reads texts only as dates may be told to let numbers count too. A single value is
then read as before, if it was read at all. This carries over to whole builds, provided that no date
field ignores malformed values: what such a field drops under the first policy, it may keep under
the second, and the document is another one. With that proviso, every record that is built under the
first policy is built under the second with the same id and line (`epochDates_conservative`).
-/

namespace Intake

open Intake.Schema Intake.Calendar

/-! ## Outcomes that extend others -/

/-- What the first outcome gives, the second gives too. -/
def Extends {ε α : Type} (outcome wider : Except ε α) : Prop :=
  ∀ a, outcome = .ok a → wider = .ok a

namespace Extends

variable {ε α β : Type}

theorem refl (outcome : Except ε α) : Extends outcome outcome := fun _ given => given

theorem of_error (error : ε) (wider : Except ε α) : Extends (.error error) wider := nofun

/-- What is done next may extend as well. -/
theorem bind {outcome wider : Except ε α} {next widerNext : α → Except ε β}
    (h : Extends outcome wider) (h' : ∀ a, Extends (next a) (widerNext a)) :
    Extends (outcome >>= next) (wider >>= widerNext) := by
  intro b given
  obtain ⟨a, first, second⟩ := bind_eq_ok.mp given
  exact bind_eq_ok.mpr ⟨a, h a first, h' a b second⟩

end Extends

/-! ## One value -/

/-- The field minds malformed values, if it is for dates. -/
def Schema.Field.MindsDates (field : Field) : Prop :=
  field.type = some .date → field.ignoresMalformed = false

/-- **A value is coerced as before**, if it was coerced at all. -/
theorem coerceText_extends {field : Field} (minds : field.MindsDates) (raw : String) :
    Extends (coerceText .textOnly field raw) (coerceText .textOrEpoch field raw) := by
  unfold coerceText coerce
  split
  · exact .refl _
  · split
    · exact .refl _
    · next type declared =>
      cases type with
      | date =>
        simp only [coerceAs]
        cases read : readDate .textOnly (Text.trim raw).toList with
        | ok t =>
          rw [readDate_textOrEpoch_extends read]
          exact .refl _
        | error fault =>
          -- the field refuses the value, so there is nothing to extend
          have refused : (reject field raw (some (.date fault)) :
              Except IngestError (Option String)) = .error _ :=
            if_neg (by simp [minds declared])
          dsimp only
          rw [refused]
          exact .of_error _ _
      | _ => exact .refl _

/-! ## Collecting -/

theorem Event.outcome_extends {event : Event} (minds : event.field.MindsDates) :
    Extends (event.outcome .textOnly) (event.outcome .textOrEpoch) := by
  unfold Event.outcome
  split
  · exact coerceText_extends minds _
  · exact .refl _

/-- **The events of a tree push as before**, if they could be pushed. -/
theorem eventPushes_extends {events : List Event}
    (minds : ∀ event ∈ events, event.field.MindsDates) :
    Extends (eventPushes .textOnly events) (eventPushes .textOrEpoch events) := by
  induction events with
  | nil => exact .refl (.ok [])
  | cons event rest ih =>
    obtain ⟨first, others⟩ := List.forall_mem_cons.mp minds
    rw [eventPushes_cons, eventPushes_cons]
    exact (Event.outcome_extends first).bind fun _ => (ih others).bind fun _ => .refl _

/-! ## Enriching -/

theorem Contribution.pushes_extends {contribution : Contribution}
    (minds : contribution.field.MindsDates) :
    Extends (contribution.pushes .textOnly) (contribution.pushes .textOrEpoch) :=
  (coerceText_extends minds contribution.value).bind fun _ => .refl _

theorem contributionPushes_extends {contributions : List Contribution}
    (minds : ∀ contribution ∈ contributions, contribution.field.MindsDates) :
    Extends (contributionPushes .textOnly contributions)
      (contributionPushes .textOrEpoch contributions) := by
  induction contributions with
  | nil => exact .refl _
  | cons contribution rest ih =>
    obtain ⟨first, others⟩ := List.forall_mem_cons.mp minds
    rw [contributionPushes, contributionPushes]
    exact (Contribution.pushes_extends first).bind fun _ => (ih others).bind fun _ => .refl _

/-- Whatever text it is called with, the enricher contributes to fields that mind malformed
dates. -/
def Enricher.MindsDates (enricher : Enricher) : Prop :=
  ∀ text contributions, enricher.enrich text = .ok contributions →
    ∀ contribution ∈ contributions, contribution.field.MindsDates

theorem Enricher.pushes_extends {enricher : Enricher} (minds : enricher.MindsDates)
    (text : String) :
    Extends (enricher.pushes .textOnly text) (enricher.pushes .textOrEpoch text) := by
  unfold Enricher.pushes
  cases answers : enricher.enrich text with
  | error reason => exact .refl _
  | ok contributions => exact contributionPushes_extends (minds text contributions answers)

/-- **The enrichers push as before**: each is called with the same text, as those before it pushed
the same. -/
theorem contributedPushes_extends {enrichers : List Enricher}
    (minds : ∀ enricher ∈ enrichers, enricher.MindsDates) (values : List String) :
    Extends (contributedPushes .textOnly values enrichers)
      (contributedPushes .textOrEpoch values enrichers) := by
  induction enrichers generalizing values with
  | nil => exact .refl _
  | cons enricher rest ih =>
    obtain ⟨first, others⟩ := List.forall_mem_cons.mp minds
    rw [contributedPushes, contributedPushes]
    refine (Enricher.pushes_extends first (joinValues values)).bind fun own => ?_
    exact (ih others (values ++ own.map Prod.snd)).bind fun _ => .refl _

/-! ## Building -/

namespace Builder

/-- The builder under another policy on dates. -/
def reading (builder : Builder) (dates : DatePolicy) : Builder := { builder with dates := dates }

/-- Every field that the builder fills minds malformed dates. -/
def MindsDates (builder : Builder) : Prop := ∀ field, builder.IsTarget field → field.MindsDates

variable {builder : Builder} (minds : builder.MindsDates)

include minds

theorem MindsDates.events (tree : Tree) :
    ∀ event ∈ builder.binding.events tree, event.field.MindsDates := by
  intro event mem
  obtain ⟨path, reads, mem⟩ := List.mem_flatMap.mp mem
  obtain ⟨leaf, -, mem⟩ := List.mem_flatMap.mp mem
  obtain ⟨field, fills, rfl⟩ := List.mem_map.mp mem
  exact minds field (.bound reads fills)

theorem MindsDates.enrichers : ∀ enricher ∈ builder.enrichers, enricher.MindsDates :=
  fun _ runs _ _ answers _ contributes => minds _ (.contributed runs answers contributes)

/-- **A tree is built as before**, if it was built at all. -/
theorem MindsDates.buildTree_extends (tree : Tree) (scratch : Scratch) :
    Extends ((builder.reading .textOnly).buildTree tree scratch).1
      ((builder.reading .textOrEpoch).buildTree tree scratch).1 := by
  rw [buildTree_eq, buildTree_eq]
  refine (eventPushes_extends (minds.events tree)).bind fun pushes => ?_
  exact (contributedPushes_extends minds.enrichers _).bind fun _ => .refl _

theorem MindsDates.buildText_extends (source : String) (scratch : Scratch) :
    Extends ((builder.reading .textOnly).buildText source scratch).1
      ((builder.reading .textOrEpoch).buildText source scratch).1 := by
  unfold buildText
  cases Json.read source with
  | error refusal => exact .refl _
  | ok value => exact minds.buildTree_extends (Tree.ofJson value) scratch

omit minds

/-- **To let numbers count as dates is conservative.** A date that is read when only texts are dates
is the same date when numbers count too; the policies differ only for numbers, which the first one
does not recognise. Let no date field that a builder fills, bound or contributed to, ignore
malformed values. Then every tree and every source that is built under the first policy is built
under the second, with the same id and line. -/
theorem epochDates_conservative :
    (∀ cs t, readDate .textOnly cs = .ok t → readDate .textOrEpoch cs = .ok t) ∧
    (∀ cs, readDate .textOrEpoch cs ≠ readDate .textOnly cs →
      IsEpochShaped cs ∧ readDate .textOnly cs = .error .unrecognized) ∧
    ∀ builder : Builder,
      (∀ field, builder.IsTarget field → field.type = some .date →
        field.ignoresMalformed = false) →
      (∀ tree scratch built,
        ((builder.reading .textOnly).buildTree tree scratch).1 = .ok built →
          ((builder.reading .textOrEpoch).buildTree tree scratch).1 = .ok built) ∧
      ∀ source scratch built,
        ((builder.reading .textOnly).buildText source scratch).1 = .ok built →
          ((builder.reading .textOrEpoch).buildText source scratch).1 = .ok built := by
  refine ⟨fun cs t read => readDate_textOrEpoch_extends read, ?_, ?_⟩
  · intro cs differ
    by_cases number : IsEpochShaped cs
    · exact ⟨number, readDate_textOnly_of_isEpochShaped number⟩
    · exact absurd (readDate_eq_of_not_isEpochShaped number _ _) differ
  · intro builder minds
    have minds : builder.MindsDates := minds
    exact ⟨minds.buildTree_extends, minds.buildText_extends⟩

/-- A builder for notes with a date, which notes as well when it read them. -/
def datedNotes (written : Field) : Builder where
  binding := ⟨"notes", "note", [⟨"written", [written]⟩, ⟨"text", [Field.ofType "text" .text]⟩]⟩
  enrichers := [⟨"reader", false, fun _ => .ok [⟨Field.ofType "read" .date, "2024-03-02"⟩]⟩]
  dates := .textOnly
  idField := some "text"

/-- No date field of the builder ignores malformed values. -/
theorem mindsDates_datedNotes : (datedNotes (Field.ofType "written" .date)).MindsDates := by
  intro field target _
  cases target with
  | bound reads fills =>
    simp only [datedNotes, List.mem_cons, List.not_mem_nil, or_false] at reads
    rcases reads with rfl | rfl
    · rw [List.mem_singleton.mp fills]
      rfl
    · rw [List.mem_singleton.mp fills]
      rfl
  | contributed runs answers contributes =>
    rw [List.mem_singleton.mp runs] at answers
    rw [← Except.ok.inj answers] at contributes
    rw [List.mem_singleton.mp contributes]
    rfl

/-- A note with its date in words is built under both policies alike; a bare number is read under
one only. -/
theorem epochDates_conservative_note :
    readDate .textOrEpoch "1 March 2024".toList = .ok ⟨1709251200, 0⟩ ∧
    IsEpochShaped "17".toList ∧
    (((datedNotes (Field.ofType "written" .date)).reading .textOrEpoch).buildText
        "\x7b\"written\":\"1 March 2024\",\"text\":\"17\"\x7d" Scratch.empty).1 =
      .ok ⟨some "17", "\x7b\"written\":\"2024-03-01T00:00:00.000Z\",\"text\":\"17\"," ++
        "\"read\":\"2024-03-02T00:00:00.000Z\"\x7d"⟩ := by
  obtain ⟨dates, numbers, builders⟩ := epochDates_conservative
  have differ : readDate .textOrEpoch "17".toList ≠ readDate .textOnly "17".toList := by decide
  refine ⟨dates _ _ (by decide), (numbers _ differ).1, ?_⟩
  refine (builders _ mindsDates_datedNotes).2 _ _ _ ?_
  exact eq_ok_of_toOption (by decide +kernel)

-- A lenient date field drops a number under the first policy only.
example :
    let lenient := datedNotes { Field.ofType "written" .date with ignoreMalformed := some true }
    let source := "\x7b\"written\":17\x7d"
    ((lenient.reading .textOnly).build source).toOption.map Built.line =
        some "\x7b\"read\":\"2024-03-02T00:00:00.000Z\"\x7d" ∧
      ((lenient.reading .textOrEpoch).build source).toOption.map Built.line =
        some ("\x7b\"written\":\"1970-01-01T00:00:17.000Z\"," ++
          "\"read\":\"2024-03-02T00:00:00.000Z\"\x7d") := by
  decide +kernel

end Builder

end Intake
