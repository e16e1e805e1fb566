import Intake.Proofs.Text.Cutting
import Mathlib.Data.Set.Card
import Mathlib.Order.Interval.Basic
import Mathlib.Order.Minimal

/-!
# Words

`words` cuts a text at its blanks. What it finds can be said without cutting: the words stand at the
runs of visible characters that no longer run contains, from left to right (`exists_listsRuns`), and
there are as many words as such runs (`length_words`).

A blank between two texts keeps their words apart and adds none (`words_append_blank`), whatever
blanks the texts end or begin with. Nothing else has to be known about the place where two texts
meet: words of texts that are joined with blanks are the words of the texts (`words_intercalate`),
and the longest runs are found by one induction over the blanks of a text.
-/

namespace Intake.Text

/-! ## Texts and blanks -/

/-- Of a text without blanks, all is one word, unless there is nothing. -/
theorem words_of_visible {cs : List Char} (visible : ∀ c ∈ cs, isBlank c = false) :
    words cs = if cs = [] then [] else [cs] := by
  rw [words, splitAtEach_of_uncut visible]
  cases cs <;> rfl

/-- **A blank between two texts** keeps their words apart. -/
theorem words_append_blank {b : Char} (blank : isBlank b = true) (front rest : List Char) :
    words (front ++ b :: rest) = words front ++ words rest := by
  rw [words, splitAtEach_append_cons blank, List.filter_append]
  rfl

/-- **The words of texts that are joined** are the words of the texts. -/
theorem words_intercalate {b : Char} (blank : isBlank b = true) (texts : List (List Char)) :
    words ([b].intercalate texts) = texts.flatMap words := by
  induction texts with
  | nil => rfl
  | cons text rest ih =>
    cases rest with
    | nil => simp
    | cons next rest =>
      rw [List.intercalate_cons_cons, List.append_assoc, List.singleton_append,
        words_append_blank blank, ih, ← List.flatMap_cons]

/-- **Texts by their blanks.** What holds of all texts without blanks, and of two texts with a blank
between them if it holds of both, holds of every text. -/
theorem induction_on_blanks {motive : List Char → Prop}
    (visible : ∀ cs, (∀ c ∈ cs, isBlank c = false) → motive cs)
    (seam : ∀ front b rest, isBlank b = true → motive front → motive rest →
      motive (front ++ b :: rest))
    (cs : List Char) : motive cs := by
  -- What was passed over since the last blank is carried along.
  suffices ∀ front, (∀ c ∈ front, isBlank c = false) → motive (front ++ cs) from
    this [] (List.forall_mem_nil _)
  induction cs with
  | nil =>
    intro front front_visible
    rw [List.append_nil]
    exact visible front front_visible
  | cons c rest ih =>
    intro front front_visible
    cases c_blank : isBlank c with
    | true =>
      exact seam front c rest c_blank (visible front front_visible) (ih [] (List.forall_mem_nil _))
    | false =>
      rw [List.append_cons]
      refine ih (front ++ [c]) fun d mem => ?_
      obtain mem | mem := List.mem_append.mp mem
      · exact front_visible d mem
      · rwa [List.mem_singleton.mp mem]

/-! ## Runs -/

/-- Do visible characters stand at all places from the first to the last of the interval? -/
def IsVisibleRun (cs : List Char) (run : NonemptyInterval ℕ) : Prop :=
  ∀ i ∈ run, ∃ c, cs[i]? = some c ∧ isBlank c = false

/-- A run of visible characters that no longer one contains. -/
def IsLongestRun (cs : List Char) (run : NonemptyInterval ℕ) : Prop :=
  Maximal (IsVisibleRun cs) run

/-- The number of the longest runs of visible characters in a text. -/
noncomputable def runCount (s : String) : ℕ := {run | IsLongestRun s.toList run}.ncard

/-- The characters at a run. -/
def runText (cs : List Char) (run : NonemptyInterval ℕ) : List Char :=
  (cs.drop run.fst).take (run.snd + 1 - run.fst)

/-- The run at the same characters when `n` others are put in front. -/
def shifted (n : ℕ) (run : NonemptyInterval ℕ) : NonemptyInterval ℕ :=
  ⟨(run.fst + n, run.snd + n), Nat.add_le_add_right run.fst_le_snd n⟩

@[simp] theorem shifted_fst (n : ℕ) (run : NonemptyInterval ℕ) :
    (shifted n run).fst = run.fst + n := rfl

@[simp] theorem shifted_snd (n : ℕ) (run : NonemptyInterval ℕ) :
    (shifted n run).snd = run.snd + n := rfl

theorem shifted_le_shifted_iff {n : ℕ} {run other : NonemptyInterval ℕ} :
    shifted n run ≤ shifted n other ↔ run ≤ other := by
  simp [NonemptyInterval.le_def]

theorem exists_eq_shifted {n : ℕ} {run : NonemptyInterval ℕ} (behind : n ≤ run.fst) :
    ∃ later, run = shifted n later := by
  have first_le := run.fst_le_snd
  have start : run.fst = run.fst - n + n := by omega
  have finish : run.snd = run.snd - n + n := by omega
  exact ⟨⟨(run.fst - n, run.snd - n), Nat.sub_le_sub_right first_le n⟩,
    NonemptyInterval.ext (Prod.ext start finish)⟩

section

variable {front more : List Char} {run : NonemptyInterval ℕ}

/-- A run ends before the text does. -/
theorem IsVisibleRun.snd_lt (h : IsVisibleRun front run) : run.snd < front.length := by
  obtain ⟨c, c_there, -⟩ := h run.snd ⟨run.fst_le_snd, le_rfl⟩
  exact (List.getElem?_eq_some_iff.mp c_there).1

/-- What follows a text makes no difference to the runs within the text. -/
theorem isVisibleRun_append_iff (within : run.snd < front.length) :
    IsVisibleRun (front ++ more) run ↔ IsVisibleRun front run := by
  refine forall₂_congr fun i inside => ?_
  rw [List.getElem?_append_left (lt_of_le_of_lt inside.2 within)]

/-- What stands before a text shifts its runs. -/
theorem isVisibleRun_shifted_iff :
    IsVisibleRun (front ++ more) (shifted front.length run) ↔ IsVisibleRun more run := by
  have same (i : ℕ) : (front ++ more)[i + front.length]? = more[i]? := by
    rw [List.getElem?_append_right (Nat.le_add_left _ _), Nat.add_sub_cancel]
  constructor
  · intro h i inside
    rw [← same]
    exact h _ ⟨Nat.add_le_add_right inside.1 _, Nat.add_le_add_right inside.2 _⟩
  · intro h i inside
    obtain ⟨k, rfl⟩ := Nat.exists_eq_add_of_le' (le_trans (Nat.le_add_left _ _) inside.1)
    rw [same]
    exact h k ⟨Nat.le_of_add_le_add_right inside.1, Nat.le_of_add_le_add_right inside.2⟩

theorem runText_append (within : run.snd < front.length) :
    runText (front ++ more) run = runText front run := by
  have first_le := run.fst_le_snd
  rw [runText, List.drop_append_of_le_length (by omega), List.take_append_of_le_length, runText]
  rw [List.length_drop]
  omega

theorem runText_shifted :
    runText (front ++ more) (shifted front.length run) = runText more run := by
  rw [runText, shifted_fst, shifted_snd, Nat.add_comm run.fst, ← List.drop_drop, List.drop_left,
    runText]
  congr 1
  omega

end

/-! ## Runs on both sides of a blank -/

section

variable {front rest : List Char} {b : Char} {run : NonemptyInterval ℕ}

/-- **No run goes over a blank**: it lies before it or behind it. -/
theorem isVisibleRun_append_blank (blank : isBlank b = true) :
    IsVisibleRun (front ++ b :: rest) run ↔
      IsVisibleRun front run ∨
        ∃ later, IsVisibleRun rest later ∧ run = shifted (front ++ [b]).length later := by
  constructor
  · intro h
    have apart : ¬ (run.fst ≤ front.length ∧ front.length ≤ run.snd) := by
      intro inside
      obtain ⟨c, c_there, visible⟩ := h front.length inside
      rw [List.getElem?_append_right le_rfl, Nat.sub_self, List.getElem?_cons_zero] at c_there
      cases c_there
      rw [blank] at visible
      cases visible
    by_cases before : run.snd < front.length
    · exact .inl ((isVisibleRun_append_iff before).mp h)
    · have behind : (front ++ [b]).length ≤ run.fst := by
        rw [List.length_append, List.length_singleton]
        omega
      obtain ⟨later, rfl⟩ := exists_eq_shifted behind
      rw [List.append_cons, isVisibleRun_shifted_iff] at h
      exact .inr ⟨later, h, rfl⟩
  · rintro (here | ⟨later, there, rfl⟩)
    · exact (isVisibleRun_append_iff here.snd_lt).mpr here
    · rw [List.append_cons, isVisibleRun_shifted_iff]
      exact there

/-- **The longest runs** of two texts with a blank between them are those of the two texts. -/
theorem isLongestRun_append_blank (blank : isBlank b = true) :
    IsLongestRun (front ++ b :: rest) run ↔
      IsLongestRun front run ∨
        ∃ later, IsLongestRun rest later ∧ run = shifted (front ++ [b]).length later := by
  have before {other : NonemptyInterval ℕ} (here : IsVisibleRun front other) :
      IsVisibleRun (front ++ b :: rest) other :=
    (isVisibleRun_append_blank blank).mpr (.inl here)
  have behind {other : NonemptyInterval ℕ} (there : IsVisibleRun rest other) :
      IsVisibleRun (front ++ b :: rest) (shifted (front ++ [b]).length other) :=
    (isVisibleRun_append_blank blank).mpr (.inr ⟨other, there, rfl⟩)
  constructor
  · rintro ⟨visible, longest⟩
    obtain here | ⟨later, there, rfl⟩ := (isVisibleRun_append_blank blank).mp visible
    · exact .inl ⟨here, fun other other_here => longest (before other_here)⟩
    · refine .inr ⟨later, ⟨there, fun other other_there within => ?_⟩, rfl⟩
      exact shifted_le_shifted_iff.mp
        (longest (behind other_there) (shifted_le_shifted_iff.mpr within))
  · -- A run on the other side of the blank does not contain this one.
    rintro (⟨here, longest⟩ | ⟨later, ⟨there, longest⟩, rfl⟩)
    · refine ⟨before here, fun other other_visible within => ?_⟩
      obtain other_here | ⟨later, -, rfl⟩ := (isVisibleRun_append_blank blank).mp other_visible
      · exact longest other_here within
      · have ends := here.snd_lt
        have begins := within.1
        have first_le := run.fst_le_snd
        rw [shifted_fst, List.length_append] at begins
        omega
    · refine ⟨behind there, fun other other_visible within => ?_⟩
      obtain other_here | ⟨other, other_there, rfl⟩ :=
        (isVisibleRun_append_blank blank).mp other_visible
      · have ends := other_here.snd_lt
        have goes_on := within.2
        rw [shifted_snd, List.length_append] at goes_on
        omega
      · exact shifted_le_shifted_iff.mpr
          (longest other_there (shifted_le_shifted_iff.mp within))

end

/-! ## Words as runs -/

/-- The runs are the longest ones of the text, from left to right, and the words stand at them. -/
structure ListsRuns (cs : List Char) (runs : List (NonemptyInterval ℕ)) : Prop where
  ordered : runs.Pairwise fun run later => run.snd < later.fst
  mem_iff : ∀ run, run ∈ runs ↔ IsLongestRun cs run
  words_eq : words cs = runs.map (runText cs)

theorem listsRuns_nil : ListsRuns [] [] where
  ordered := .nil
  mem_iff run := by
    simp only [List.not_mem_nil, false_iff]
    exact fun longest => Nat.not_lt_zero _ longest.1.snd_lt
  words_eq := rfl

/-- A text without blanks is one run. -/
theorem listsRuns_of_visible {cs : List Char} (some_char : 0 < cs.length)
    (visible : ∀ c ∈ cs, isBlank c = false) :
    ListsRuns cs [⟨(0, cs.length - 1), Nat.zero_le _⟩] where
  ordered := List.pairwise_singleton _ _
  mem_iff run := by
    have whole_visible : IsVisibleRun cs ⟨(0, cs.length - 1), Nat.zero_le _⟩ := by
      intro i inside
      have last : i ≤ cs.length - 1 := inside.2
      have there : i < cs.length := by omega
      exact ⟨cs[i], List.getElem?_eq_getElem there, visible _ (List.getElem_mem there)⟩
    have le_whole {other : NonemptyInterval ℕ} (other_visible : IsVisibleRun cs other) :
        other ≤ ⟨(0, cs.length - 1), Nat.zero_le _⟩ :=
      ⟨Nat.zero_le _, Nat.le_sub_one_of_lt other_visible.snd_lt⟩
    rw [List.mem_singleton]
    constructor
    · rintro rfl
      exact ⟨whole_visible, fun other other_visible _ => le_whole other_visible⟩
    · exact fun longest =>
        le_antisymm (le_whole longest.1) (longest.2 whole_visible (le_whole longest.1))
  words_eq := by
    rw [words_of_visible visible, if_neg (List.ne_nil_of_length_pos some_char)]
    simp [runText, Nat.sub_add_cancel some_char]

theorem ListsRuns.append_blank {front rest : List Char} {b : Char}
    {runs later : List (NonemptyInterval ℕ)} (blank : isBlank b = true)
    (h : ListsRuns front runs) (h' : ListsRuns rest later) :
    ListsRuns (front ++ b :: rest) (runs ++ later.map (shifted (front ++ [b]).length)) where
  ordered := by
    refine List.pairwise_append.mpr ⟨h.ordered, ?_, ?_⟩
    · rw [List.pairwise_map]
      exact h'.ordered.imp fun apart => Nat.add_lt_add_right apart _
    · intro run mem other other_mem
      obtain ⟨behind, -, rfl⟩ := List.mem_map.mp other_mem
      have ends := ((h.mem_iff run).mp mem).1.snd_lt
      rw [shifted_fst, List.length_append]
      omega
  mem_iff run := by
    rw [isLongestRun_append_blank blank, List.mem_append, h.mem_iff, List.mem_map]
    simp only [h'.mem_iff, eq_comm]
  words_eq := by
    rw [words_append_blank blank, h.words_eq, h'.words_eq, List.map_append, List.map_map]
    congr 1
    · refine List.map_congr_left fun run mem => ?_
      rw [runText_append ((h.mem_iff run).mp mem).1.snd_lt]
    · refine List.map_congr_left fun run _ => ?_
      rw [Function.comp_apply, List.append_cons, runText_shifted]

/-- **The words of a text** stand at its longest runs of visible characters. -/
theorem exists_listsRuns (cs : List Char) : ∃ runs, ListsRuns cs runs := by
  induction cs using induction_on_blanks with
  | visible cs visible =>
    cases cs with
    | nil => exact ⟨[], listsRuns_nil⟩
    | cons c cs => exact ⟨_, listsRuns_of_visible (Nat.succ_pos _) visible⟩
  | seam front b rest blank front_runs rest_runs =>
    obtain ⟨runs, lists⟩ := front_runs
    obtain ⟨later, lists'⟩ := rest_runs
    exact ⟨_, lists.append_blank blank lists'⟩

/-- **There are as many words as longest runs.** -/
theorem length_words (s : String) : (words s.toList).length = runCount s := by
  obtain ⟨runs, lists⟩ := exists_listsRuns s.toList
  have distinct : runs.Nodup := lists.ordered.imp fun {run later} apart same => by
    rw [same] at apart
    exact absurd apart (Nat.not_lt.mpr later.fst_le_snd)
  have all : {run | IsLongestRun s.toList run} = (runs.toFinset : Set (NonemptyInterval ℕ)) := by
    ext run
    simp [lists.mem_iff]
  rw [runCount, all, Set.ncard_coe_finset, List.toFinset_card_of_nodup distinct, lists.words_eq,
    List.length_map]

end Intake.Text
