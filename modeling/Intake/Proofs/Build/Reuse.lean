import Intake.Build

/-!
# Builds that share a scratch

A scratch may serve any number of builds, of texts and of trees, by one builder or by several. A
build that gets as far as a tree clears the scratch before it collects and once more when it ends,
wherever it ended; a text that cannot be read never touches it. So a scratch that began empty is
empty after every call, its index included, and no answer depends on the calls before.
-/

namespace Intake

/-- A call for a build, of a text or of a tree. -/
inductive BuildCall where
  | ofText (builder : Builder) (source : String)
  | ofTree (builder : Builder) (tree : Tree)

/-- Makes a call on a scratch: its answer, and the scratch after it. -/
def BuildCall.on : BuildCall → Scratch → Except IngestError Built × Scratch
  | .ofText builder source, scratch => builder.buildText source scratch
  | .ofTree builder tree, scratch => builder.buildTree tree scratch

/-- Makes calls one after the other on one scratch: the answer of each and the scratch after it. -/
def makeCalls : List BuildCall → Scratch → List (Except IngestError Built × Scratch)
  | [], _ => []
  | call :: rest, scratch =>
    let outcome := call.on scratch
    outcome :: makeCalls rest outcome.2

/-! ## One call -/

namespace Builder

/-- A build of a tree leaves an empty scratch, also when it fails. -/
theorem buildTree_snd (builder : Builder) (tree : Tree) (scratch : Scratch) :
    (builder.buildTree tree scratch).2 = Scratch.empty := rfl

/-- A build of a tree sees nothing of what the scratch held. -/
theorem buildTree_eq_on_empty (builder : Builder) (tree : Tree) (scratch : Scratch) :
    builder.buildTree tree scratch = builder.buildTree tree Scratch.empty := rfl

/-- A build of a text leaves an empty scratch, or the scratch as it was. -/
theorem buildText_snd (builder : Builder) (source : String) (scratch : Scratch) :
    (builder.buildText source scratch).2 = Scratch.empty ∨
      (builder.buildText source scratch).2 = scratch := by
  unfold buildText
  split
  · exact Or.inr rfl
  · exact Or.inl (buildTree_snd ..)

/-- **The answer of a build does not depend on the scratch**, clear or not. -/
theorem buildText_fst (builder : Builder) (source : String) (scratch : Scratch) :
    (builder.buildText source scratch).1 = builder.build source := by
  unfold build buildText
  split
  · rfl
  · exact congrArg Prod.fst (buildTree_eq_on_empty ..)

end Builder

namespace BuildCall

/-- A call keeps an empty scratch empty. -/
theorem on_empty_snd (call : BuildCall) : (call.on Scratch.empty).2 = Scratch.empty := by
  cases call with
  | ofText builder source => exact (builder.buildText_snd source Scratch.empty).elim id id
  | ofTree builder tree => exact builder.buildTree_snd tree Scratch.empty

end BuildCall

/-! ## Any number of calls -/

/-- Calls on an empty scratch: each finds it empty, and leaves it so. -/
theorem makeCalls_empty (calls : List BuildCall) :
    makeCalls calls Scratch.empty =
      calls.map fun call => ((call.on Scratch.empty).1, Scratch.empty) := by
  induction calls with
  | nil => rfl
  | cons call rest ih =>
    have outcome_eq : call.on Scratch.empty = ((call.on Scratch.empty).1, Scratch.empty) :=
      Prod.ext rfl call.on_empty_snd
    simp only [makeCalls, call.on_empty_snd, ih, List.map_cons]
    rw [← outcome_eq]

/-- **No state leaks between builds.** Of any calls on a scratch that began empty, each answers as
it would on a scratch of its own, and after each the document's entries, its index and the
aggregate text are empty. -/
theorem makeCalls_leak_nothing (calls : List BuildCall) :
    (makeCalls calls Scratch.empty).map Prod.fst =
        calls.map (fun call => (call.on Scratch.empty).1) ∧
      ∀ outcome ∈ makeCalls calls Scratch.empty,
        outcome.2.document.entries = [] ∧ outcome.2.document.positions = [] ∧
          outcome.2.aggregate = "" := by
  rw [makeCalls_empty]
  constructor
  · rw [List.map_map]
    rfl
  · intro outcome member
    obtain ⟨call, -, rfl⟩ := List.mem_map.mp member
    exact ⟨rfl, rfl, rfl⟩

end Intake
