import Intake.Text.Ranges

/-!
# Blank characters

A character is *blank* when Unicode gives it the property White_Space. Blanks at either end of a
scalar are insignificant (`trim`), a text made of blanks only counts as no text at all
(`isBlankText`), and words are the longest runs of other characters (`words`).
-/

namespace Intake.Text

/-- The code points with the property White_Space. -/
def blankRanges : Ranges :=
  [(0x0009, 0x000D), (0x0020, 0x0020), (0x0085, 0x0085), (0x00A0, 0x00A0), (0x1680, 0x1680),
   (0x2000, 0x200A), (0x2028, 0x2029), (0x202F, 0x202F), (0x205F, 0x205F), (0x3000, 0x3000)]

/-- Is the character a blank? -/
def isBlank (c : Char) : Bool := blankRanges.contains c

/-- Drops the blanks at the start. -/
def trimLeft (cs : List Char) : List Char := cs.dropWhile isBlank

/-- Drops the blanks at both ends. -/
def trimChars (cs : List Char) : List Char :=
  (trimLeft (trimLeft cs).reverse).reverse

/-- The text without the blanks at both ends. -/
def trim (s : String) : String := String.ofList (trimChars s.toList)

/-- Does the text hold nothing but blanks? -/
def isBlankText (s : String) : Bool := s.toList.all isBlank

/-- Adds a character to the first of the pieces that follow it. -/
def consPiece {α : Type} (a : α) : List (List α) → List (List α)
  | [] => [[a]]
  | piece :: pieces => (a :: piece) :: pieces

/-- Cuts a list at every element that satisfies `p`. There is one piece more than there are cuts,
and no piece holds a cut. -/
def splitAtEach {α : Type} (p : α → Bool) : List α → List (List α)
  | [] => [[]]
  | a :: rest => if p a then [] :: splitAtEach p rest else consPiece a (splitAtEach p rest)

/-- The longest runs of characters that are not blank, from left to right. -/
def words (cs : List Char) : List (List Char) :=
  (splitAtEach isBlank cs).filter fun piece => !piece.isEmpty

/-! ## Cutting and trimming -/

theorem splitAtEach_ne_nil {α : Type} (p : α → Bool) (l : List α) : splitAtEach p l ≠ [] := by
  cases l with
  | nil => simp [splitAtEach]
  | cons a rest =>
    simp only [splitAtEach]
    split
    · simp
    · cases splitAtEach p rest <;> simp [consPiece]

/-- A text of blanks only is trimmed to nothing, and only such a text is. -/
theorem trimLeft_eq_nil_iff {cs : List Char} : trimLeft cs = [] ↔ cs.all isBlank = true := by
  induction cs with
  | nil => simp [trimLeft]
  | cons c rest ih =>
    by_cases h : isBlank c <;> simp_all [trimLeft]

end Intake.Text
