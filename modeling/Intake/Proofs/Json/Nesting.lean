import Intake.Json.Basic

/-!
# How deep a text nests

`nesting` is the number of lists and objects that a text opens around one place, counted on its
characters alone: a bracket inside a string is a character like any other, and what follows a
backslash ends no string.

The count is taken apart along the text. `Nests n used` says that whatever stands around them, the
characters `used` go `n` deeper and come back: pieces in a row nest as deep as the deepest of them
(`Nests.append`), and a pair of brackets around a piece is one deeper (`Nests.bracket`).
-/

namespace Intake.Json

/-! ## Counting -/

/-- Does a character stand in a string? -/
inductive Quoting where
  | outside
  | inside
  /-- In a string, after a backslash. -/
  | escaped
  deriving DecidableEq, Repr

/-- Does what follows a character stand in a string? -/
def Quoting.after (quoting : Quoting) (c : Char) : Quoting :=
  match quoting with
  | .outside => if c = '"' then .inside else .outside
  | .inside => if c = '"' then .outside else if c = '\\' then .escaped else .inside
  | .escaped => .inside

/-- Does the character open a list or an object? -/
def isOpening (c : Char) : Bool := c == '[' || c == '\x7b'

/-- Does the character close a list or an object? -/
def isClosing (c : Char) : Bool := c == ']' || c == '\x7d'

/-- How many lists and objects are open after a character. -/
def Quoting.openAfter (quoting : Quoting) (c : Char) (depth : Nat) : Nat :=
  match quoting with
  | .outside => if isOpening c then depth + 1 else if isClosing c then depth - 1 else depth
  | _ => depth

/-- The most lists and objects that are open at once in what is left of a text. -/
def peak : Quoting → Nat → List Char → Nat
  | _, depth, [] => depth
  | quoting, depth, c :: rest =>
    max depth (peak (quoting.after c) (quoting.openAfter c depth) rest)

/-- How deep the lists and objects of a text are nested. -/
def nesting (text : List Char) : Nat := peak .outside 0 text

example : nesting "[1, \x7b\"[[\\\"[\": []\x7d]".toList = 3 := by decide

theorem le_peak (quoting : Quoting) (depth : Nat) (text : List Char) :
    depth ≤ peak quoting depth text := by
  cases text with
  | nil => exact Nat.le_refl depth
  | cons c rest => exact Nat.le_max_left _ _

/-- A character that opens and closes nothing does not count. -/
theorem peak_cons_of_level {quoting : Quoting} {c : Char} {depth : Nat}
    (level : quoting.openAfter c depth = depth) (rest : List Char) :
    peak quoting depth (c :: rest) = peak (quoting.after c) depth rest := by
  rw [peak, level, Nat.max_eq_right (le_peak _ _ _)]

/-! ## Inside strings -/

/-- The characters stay within the string that they stand in. -/
def Quiet (used : List Char) : Prop :=
  ∀ depth rest, peak .inside depth (used ++ rest) = peak .inside depth rest

theorem Quiet.nil : Quiet [] := fun _ _ => rfl

theorem Quiet.append {a b : List Char} (ha : Quiet a) (hb : Quiet b) : Quiet (a ++ b) := by
  intro depth rest
  rw [List.append_assoc, ha, hb]

theorem Quiet.cons {c : Char} {used : List Char} (not_quote : c ≠ '"') (not_backslash : c ≠ '\\')
    (h : Quiet used) : Quiet (c :: used) := by
  intro depth rest
  rw [List.cons_append, peak_cons_of_level rfl, Quoting.after, if_neg not_quote,
    if_neg not_backslash, h]

/-- An escaped character may be any. -/
theorem Quiet.escaped (c : Char) {used : List Char} (h : Quiet used) :
    Quiet ('\\' :: c :: used) := by
  intro depth rest
  rw [List.cons_append, List.cons_append, peak_cons_of_level rfl, peak_cons_of_level rfl]
  exact h depth rest

/-! ## Outside strings -/

/-- The characters nest so deep and end as many lists and objects as they begin, outside of any
string. -/
def Nests (n : Nat) (used : List Char) : Prop :=
  ∀ depth rest,
    peak .outside depth (used ++ rest) = max (depth + n) (peak .outside depth rest)

/-- Is the character one that neither nests nor begins a string? -/
def isPlain (c : Char) : Bool := !isOpening c && !isClosing c && c != '"'

theorem Nests.nil : Nests 0 [] := fun depth rest =>
  (Nat.max_eq_right (le_peak .outside depth rest)).symm

/-- Pieces in a row nest as deep as the deepest of them. -/
theorem Nests.append {m n : Nat} {a b : List Char} (ha : Nests m a) (hb : Nests n b) :
    Nests (max m n) (a ++ b) := by
  intro depth rest
  rw [List.append_assoc, ha, hb]
  omega

theorem Nests.plain_cons {n : Nat} {c : Char} {used : List Char} (plain : isPlain c = true)
    (h : Nests n used) : Nests n (c :: used) := by
  simp only [isPlain, Bool.and_eq_true, Bool.not_eq_true', bne_iff_ne] at plain
  obtain ⟨⟨not_opening, not_closing⟩, not_quote⟩ := plain
  intro depth rest
  have level : Quoting.outside.openAfter c depth = depth := by
    simp [Quoting.openAfter, not_opening, not_closing]
  rw [List.cons_append, peak_cons_of_level level, Quoting.after, if_neg not_quote, h]

theorem Nests.plain {used : List Char} (plain : ∀ c ∈ used, isPlain c = true) : Nests 0 used := by
  induction used with
  | nil => exact .nil
  | cons c used ih =>
    obtain ⟨first, others⟩ := List.forall_mem_cons.mp plain
    exact (ih others).plain_cons first

/-- **A pair of brackets is one deeper than what it holds.** -/
theorem Nests.bracket {n : Nat} {opening closing : Char} {used : List Char}
    (opens : isOpening opening = true) (closes : isClosing closing = true) (h : Nests n used) :
    Nests (n + 1) (opening :: (used ++ [closing])) := by
  have no_quote {c : Char} (bracket : isOpening c = true ∨ isClosing c = true) : c ≠ '"' := by
    rintro rfl
    exact absurd bracket (by decide)
  have not_opening : isOpening closing = false := by
    simp only [isClosing, Bool.or_eq_true, beq_iff_eq] at closes
    rcases closes with rfl | rfl <;> rfl
  intro depth rest
  have step_in : peak .outside depth (opening :: (used ++ [closing]) ++ rest) =
      max depth (peak .outside (depth + 1) (used ++ closing :: rest)) := by
    simp [peak, Quoting.after, Quoting.openAfter, no_quote (.inl opens), opens]
  have step_out : peak .outside (depth + 1) (closing :: rest) =
      max (depth + 1) (peak .outside depth rest) := by
    simp [peak, Quoting.after, Quoting.openAfter, no_quote (.inr closes), closes, not_opening]
  rw [step_in, h, step_out]
  omega

/-- A string nests nothing. -/
theorem Nests.string {used : List Char} (h : Quiet used) : Nests 0 ('"' :: (used ++ ['"'])) := by
  intro depth rest
  have stays : peak .outside depth ('"' :: (used ++ ['"']) ++ rest) = peak .outside depth rest := by
    rw [List.cons_append, peak_cons_of_level rfl, List.append_assoc]
    show peak .inside depth (used ++ '"' :: rest) = _
    rw [h, peak_cons_of_level rfl]
    rfl
  rw [stays]
  exact (Nat.max_eq_right (le_peak _ _ _)).symm

/-- Characters that end what they begin nest as deep as they say. -/
theorem Nests.nesting_eq {n : Nat} {text : List Char} (h : Nests n text) : nesting text = n := by
  have whole := h 0 []
  rw [List.append_nil, Nat.zero_add] at whole
  exact whole.trans (Nat.max_eq_left (Nat.zero_le n))

end Intake.Json
