/-!
# Steps that may fail

A computation of several steps succeeds exactly if each of them does, so what it gives can be taken
apart step by step.
-/

namespace Intake

/-- A computation with two steps succeeds exactly if both do. -/
theorem bind_eq_ok {ε α β : Type} {first : Except ε α} {next : α → Except ε β} {b : β} :
    (first >>= next) = .ok b ↔ ∃ a, first = .ok a ∧ next a = .ok b := by
  cases first with
  | error e => exact ⟨nofun, nofun⟩
  | ok a =>
    constructor
    · intro h
      exact ⟨a, rfl, h⟩
    · rintro ⟨a', same, h⟩
      cases same
      exact h

/-- A computation with two steps fails as its first step does, or as its second after it. -/
theorem bind_eq_error {ε α β : Type} {first : Except ε α} {next : α → Except ε β} {error : ε} :
    (first >>= next) = .error error ↔
      first = .error error ∨ ∃ a, first = .ok a ∧ next a = .error error := by
  cases first with
  | error e =>
    constructor
    · intro h
      obtain rfl : e = error := Except.error.inj h
      exact .inl rfl
    · rintro (h | ⟨a, impossible, -⟩)
      · obtain rfl : e = error := Except.error.inj h
        rfl
      · cases impossible
  | ok a =>
    constructor
    · intro h
      exact .inr ⟨a, rfl, h⟩
    · rintro (impossible | ⟨a', same, h⟩)
      · cases impossible
      · cases same
        exact h

/-- **A loop that comes to its end** has done all its elements: what holds before the first, and is
carried from one to the next, holds after the last. -/
theorem foldlM_induction {ε α β : Type} {step : α → β → Except ε α} {P : List β → α → Prop}
    {l : List β} {first last : α} (run : l.foldlM step first = .ok last) (start : P [] first)
    (carry : ∀ before b after a next, l = before ++ b :: after → step a b = .ok next →
      P before a → P (before ++ [b]) next) : P l last := by
  -- the induction is on the elements that are left
  suffices h : ∀ rest before a, l = before ++ rest → P before a →
      rest.foldlM step a = .ok last → P l last from h l [] first rfl start run
  clear run start
  intro rest
  induction rest with
  | nil =>
    intro before a all holds done
    cases done
    rwa [all, List.append_nil]
  | cons b rest ih =>
    intro before a all holds run
    rw [List.foldlM_cons] at run
    obtain ⟨next, taken, others⟩ := bind_eq_ok.mp run
    exact ih (before ++ [b]) next (by simpa using all) (carry before b rest a next all taken holds)
      others

/-- One computation for each element succeeds exactly if each of them does. -/
theorem exists_mapM_eq_ok_iff {ε α β : Type} {f : α → Except ε β} {l : List α} :
    (∃ results, l.mapM f = .ok results) ↔ ∀ a ∈ l, ∃ b, f a = .ok b := by
  induction l with
  | nil => exact ⟨fun _ _ => nofun, fun _ => ⟨[], rfl⟩⟩
  | cons a rest ih =>
    rw [List.forall_mem_cons, ← ih, List.mapM_cons]
    constructor
    · rintro ⟨results, run⟩
      obtain ⟨b, first, run⟩ := bind_eq_ok.mp run
      obtain ⟨bs, others, -⟩ := bind_eq_ok.mp run
      exact ⟨⟨b, first⟩, bs, others⟩
    · rintro ⟨⟨b, first⟩, bs, others⟩
      exact ⟨b :: bs, bind_eq_ok.mpr ⟨b, first, bind_eq_ok.mpr ⟨bs, others, rfl⟩⟩⟩

/-- Computations that fail together fail as one of them does. -/
theorem exists_of_mapM_eq_error {ε α β : Type} {f : α → Except ε β} {l : List α} {error : ε}
    (h : l.mapM f = .error error) : ∃ a ∈ l, f a = .error error := by
  induction l with
  | nil => cases h
  | cons a rest ih =>
    rw [List.mapM_cons] at h
    rcases bind_eq_error.mp h with first | ⟨b, -, others⟩
    · exact ⟨a, List.mem_cons_self, first⟩
    · rcases bind_eq_error.mp others with later | ⟨bs, -, impossible⟩
      · obtain ⟨a', mem, failed⟩ := ih later
        exact ⟨a', List.mem_cons_of_mem a mem, failed⟩
      · cases impossible

/-- Mapping what each computation gives is mapping what all of them give. -/
theorem mapM_map_eq {ε α β γ : Type} (f : α → Except ε β) (g : β → γ) (l : List α) :
    (l.mapM fun a => (f a).map g) = (l.mapM f).map (List.map g) := by
  induction l with
  | nil => rfl
  | cons a rest ih =>
    rw [List.mapM_cons, List.mapM_cons, ih]
    cases f a with
    | error error => rfl
    | ok b => cases rest.mapM f <;> rfl

/-- The error of a computation that failed. -/
def error? {ε α : Type} : Except ε α → Option ε
  | .ok _ => none
  | .error error => some error

theorem eq_error_of_error? {ε α : Type} {result : Except ε α} {error : ε}
    (h : error? result = some error) : result = .error error := by
  cases result with
  | ok a => cases h
  | error e => exact congrArg Except.error (Option.some.inj h)

end Intake
