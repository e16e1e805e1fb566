import Intake.Proofs.Json.OneLine

/-!
# What a build answers

A build that succeeds answers the line of the document it ends with, and the first value of the
identifying field of the same document. So its line is always one line.
-/

namespace Intake

namespace Builder

/-- **A build is collection, then enrichment, then the line and the id of the document.** -/
theorem assemble_on (builder : Builder) (tree : Tree) (scratch : Scratch) :
    (builder.assemble tree).on scratch =
      match (builder.collect tree >>= fun _ => builder.enrich).on scratch with
      | (.ok (), used) =>
        (.ok ⟨builder.idField.bind used.document.first?, used.document.line⟩, used)
      | (.error error, used) => (.error error, used) := by
  rw [assemble, BuildM.on_bind, BuildM.on_bind]
  cases (builder.collect tree).on scratch with
  | mk result collected =>
    cases result with
    | error error => rfl
    | ok _ =>
      dsimp only
      rw [BuildM.on_bind]
      cases builder.enrich.on collected with
      | mk result enriched =>
        cases result with
        | error error => rfl
        | ok _ =>
          -- the check for a line feed never fires
          simp only [BuildM.on_bind, BuildM.on_get, Document.hasLineFeed_line, Bool.false_eq_true,
            if_false]
          rfl

/-- **The line and the id are of one document.** -/
theorem assemble_eq_ok {builder : Builder} {tree : Tree} {scratch used : Scratch} {built : Built}
    (h : (builder.assemble tree).on scratch = (.ok built, used)) :
    built = ⟨builder.idField.bind used.document.first?, used.document.line⟩ := by
  rw [assemble_on] at h
  split at h
  · obtain ⟨built_eq, rfl⟩ := Prod.mk.inj h
    exact (Except.ok.inj built_eq).symm
  · cases h

theorem buildTree_eq_ok {builder : Builder} {tree : Tree} {scratch : Scratch} {built : Built}
    (h : (builder.buildTree tree scratch).1 = .ok built) :
    ∃ doc : Document, built = ⟨builder.idField.bind doc.first?, doc.line⟩ :=
  ⟨((builder.assemble tree).on scratch.clear).2.document, assemble_eq_ok (Prod.ext h rfl)⟩

/-- **A built line is one line.** -/
theorem hasLineFeed_of_build {builder : Builder} {source : String} {built : Built}
    (h : builder.build source = .ok built) : hasLineFeed built.line = false := by
  unfold build buildText at h
  split at h
  · cases h
  · obtain ⟨doc, rfl⟩ := buildTree_eq_ok h
    exact doc.hasLineFeed_line

end Builder

end Intake
