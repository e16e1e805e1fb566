import Intake.Proofs.Build.Enrichment
import Intake.Proofs.Text.Words

/-!
# What a count of words counts

An enricher that counts words sees only the aggregate text, in which one value stands behind the
other with a space between them. The space keeps the words of two values apart, and it is no word,
so the count is the sum over the values (`tokenCount_joinValues`): the values of the aggregated
fields, and whatever the enrichers before it contributed (`Builder.tokenCount_contributes_sum`).
Blanks within the values or at their ends make no difference.
-/

namespace Intake

open Intake.Schema Intake.Calendar

/-! ## Words of joined values -/

/-- **Joining values** neither merges words nor makes any. -/
theorem words_joinValues (values : List String) :
    Text.words (joinValues values).toList =
      values.flatMap fun value => Text.words value.toList := by
  have space : " ".toList = [' '] := rfl
  rw [joinValues, String.toList_intercalate, space, Text.words_intercalate (by decide),
    List.flatMap_map]

/-- **The count of joined values** is the sum of their counts. -/
theorem tokenCount_joinValues (field : Field) (values : List String) :
    (Enricher.tokenCount field).enrich (joinValues values) =
      .ok [⟨field, String.ofList (Text.numeral (values.map Text.runCount).sum)⟩] := by
  have total : (Text.words (joinValues values).toList).length =
      (values.map Text.runCount).sum := by
    rw [words_joinValues, List.length_flatMap]
    simp only [Text.length_words]
  rw [← total]
  rfl

namespace Builder

variable (builder : Builder) {tree : Tree} {collected : Scratch} {before after : List Enricher}

/-- Counting the words of joined values is contributing the sum. -/
theorem runEnricher_tokenCount_on (field : Field) (doc : Document) (values : List String) :
    (builder.runEnricher (.tokenCount field)).on ⟨doc, joinValues values⟩ =
      (builder.contribute
        ⟨field, String.ofList (Text.numeral (values.map Text.runCount).sum)⟩).on
          ⟨doc, joinValues values⟩ := by
  rw [runEnricher_on]
  dsimp only
  rw [tokenCount_joinValues]
  dsimp only
  rw [List.forM_eq_forM, List.forM_cons, List.forM_nil, bind_pure_unit]

/-- **A count of words is the sum over the values.** Let a tree be collected, and let some enrichers
come before one that counts words. If one of them fails, so does the pass. Otherwise the count is
called with the join of the values of the aggregated fields and of all values that the enrichers
before it contributed. What it contributes, and what the pass goes on with, is the numeral of the
sum, over these values, of the number of longest runs of visible characters in each; and the words
of the join are those of the values, one value after the other. -/
theorem tokenCount_contributes_sum
    (collects : (builder.collect tree).on Scratch.empty = (.ok (), collected)) {field : Field}
    (split_eq : builder.enrichers = before ++ .tokenCount field :: after) :
    match contributedPushes builder.dates collected.document.aggregated before with
    | .error error => ∃ used, builder.enrich.on collected = (.error error, used)
    | .ok earlier =>
      let values := collected.document.aggregated ++ earlier.flatten.map Prod.snd
      let count : Contribution :=
        ⟨field, String.ofList (Text.numeral (values.map Text.runCount).sum)⟩
      (Enricher.tokenCount field).enrich (" ".intercalate values) = .ok [count] ∧
        builder.enrich.on collected =
          (builder.contribute count >>= fun _ => after.forM builder.runEnricher).on
            ⟨collected.document.pushAll earlier.flatten, " ".intercalate values⟩ ∧
        Text.words (" ".intercalate values).toList =
          values.flatMap fun value => Text.words value.toList := by
  have counts : .tokenCount field ∈ builder.enrichers := by simp [split_eq]
  have pass := builder.enrich_on_append collects split_eq
  rw [builder.startValues_of_mem _ counts rfl] at pass
  cases pushes_eq : contributedPushes builder.dates collected.document.aggregated before with
  | error error =>
    rw [pushes_eq] at pass
    exact pass
  | ok earlier =>
    rw [pushes_eq] at pass
    refine ⟨tokenCount_joinValues field _, ?_, words_joinValues _⟩
    have goes_on : builder.enrich.on collected = _ := pass
    rw [goes_on, List.forM_eq_forM, List.forM_cons, ← List.forM_eq_forM, BuildM.on_bind,
      runEnricher_tokenCount_on, ← BuildM.on_bind]
    rfl

/-- Remarks with blanks around them, one of blanks only, and a title that is there already. -/
def remarks : Enricher where
  name := "remarks"
  needsAggregate := false
  enrich _ := .ok
    [⟨Field.untyped "note", "\u2003and so\non\t"⟩, ⟨Field.untyped "note", " \u3000"⟩,
      ⟨Field.ofType "title" .text, " Dune "⟩]

/-- Counts the words of notes, which are kept with their blanks, and of titles. -/
def remarkingBuilder : Builder where
  binding := ⟨"books", "book",
    [⟨"note", [{ Field.untyped "note" with includeInAggregate := some true }]⟩,
      ⟨"title", [{ Field.ofType "title" .text with includeInAggregate := some true }]⟩,
      ⟨"tags", [Field.ofType "tags" .keyword]⟩]⟩
  enrichers := [remarks, .tokenCount (Field.ofType "words" .integer)]
  dates := .textOnly
  idField := none

/-- A record with blanks at the ends of its note and its title. -/
def remarkedBook : Tree :=
  .record
    [("note", .list [.scalar "\u00a0a\u3000desert ", .scalar "\u2028"]),
      ("title", .scalar " Dune"), ("tags", .scalar "not counted")]

/-- What collecting the record leaves. -/
def remarkedScratch : Scratch := ((remarkingBuilder.collect remarkedBook).on Scratch.empty).2

/-- Two words of the note, the title, three words of the remarks, and the title once more. -/
theorem tokenCount_contributes_sum_remarkedBook :
    (remarkingBuilder.collect remarkedBook).on Scratch.empty = (.ok (), remarkedScratch) ∧
      remarkingBuilder.enrichers = [remarks] ++ .tokenCount (Field.ofType "words" .integer) :: [] ∧
      (Enricher.tokenCount (Field.ofType "words" .integer)).enrich
          "\u00a0a\u3000desert  Dune \u2003and so\non\t Dune" =
        .ok [⟨Field.ofType "words" .integer, "7"⟩] ∧
      ∃ doc, remarkingBuilder.enrich.on remarkedScratch =
        (remarkingBuilder.contribute ⟨Field.ofType "words" .integer, "7"⟩ >>= fun _ => pure ()).on
          ⟨doc, "\u00a0a\u3000desert  Dune \u2003and so\non\t Dune"⟩ := by
  have collects : (remarkingBuilder.collect remarkedBook).on Scratch.empty =
      (.ok (), remarkedScratch) := Prod.ext (eq_ok_of_toOption (by decide +kernel)) rfl
  have split_eq : remarkingBuilder.enrichers =
      [remarks] ++ .tokenCount (Field.ofType "words" .integer) :: [] := rfl
  refine ⟨collects, split_eq, ?_⟩
  have values_eq : ((contributedPushes remarkingBuilder.dates remarkedScratch.document.aggregated
      [remarks]).toOption.map fun earlier =>
        remarkedScratch.document.aggregated ++ earlier.flatten.map Prod.snd) =
      some ["\u00a0a\u3000desert ", "Dune", "\u2003and so\non\t", "Dune"] := by
    decide +kernel
  have counted := remarkingBuilder.tokenCount_contributes_sum collects split_eq
  cases pushes_eq : contributedPushes remarkingBuilder.dates
      remarkedScratch.document.aggregated [remarks] with
  | error error =>
    rw [pushes_eq] at values_eq
    cases values_eq
  | ok earlier =>
    rw [pushes_eq] at counted values_eq
    have values_eq : _ ++ _ = _ := Option.some.inj values_eq
    dsimp only at counted
    rw [values_eq] at counted
    have seven : (["\u00a0a\u3000desert ", "Dune", "\u2003and so\non\t", "Dune"].map
        Text.runCount).sum = 7 := by
      simp only [List.map_cons, List.map_nil, ← Text.length_words]
      decide +kernel
    rw [seven] at counted
    exact ⟨counted.1, _, counted.2.1⟩

end Builder

end Intake
