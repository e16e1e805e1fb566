import Intake.Build
import Intake.Proofs.Coercion.Visible
import Intake.Proofs.Json.Occurrences
import Intake.Proofs.Json.PlainMark

/-!
# Numbers reach the fields

A number of a source text is never turned into a machine number on its way to a field. Wherever it
stands, the leaf that is handed on is the number as it was written, but for the mark of its power of
ten (`numbers_reach_fields`): however long it is, no digit is lost and its value stays the same.
A field of texts stores what is handed on, and every field takes the number just as it would take
the string of the same characters.
-/

namespace Intake

open Intake.Json Intake.Numeral Intake.Schema Intake.Text

/-! ## Fields -/

/-- **A field of texts stores a number as it was handed on.** -/
theorem coerceText_number {n : List Char} (h : IsNumber n) (dates : Calendar.DatePolicy)
    {field : Field} (texts : field.type ∈ [none, some .text, some .keyword]) :
    coerceText dates field (String.ofList n) = .ok (some (String.ofList n)) := by
  obtain ⟨not_blank, trimmed⟩ := h.visible
  simp only [List.mem_cons, List.not_mem_nil, or_false] at texts
  obtain untyped | text | keyword := texts
  · exact coerceText_untyped dates untyped not_blank
  · rw [coerceText_of_visible dates text not_blank, trimmed]
    rfl
  · rw [coerceText_of_visible dates keyword not_blank, trimmed]
    rfl

theorem collectFor_number {n : List Char} (h : IsNumber n) (builder : Builder) {field : Field}
    (texts : field.type ∈ [none, some .text, some .keyword]) :
    builder.collectFor (.scalar (String.ofList n)) field = pushValue field (String.ofList n) := by
  rw [Builder.collectFor, coerceText_number h builder.dates texts]
  rfl

/-! ## From the text to the fields -/

/-- What comes of a number at a spot of a source text, between the leaves before it and after
it. -/
structure ReachesFields (spot : Spot) (before after : List Leaf) (n : List Char) : Prop where
  /-- The leaf at the spot is the number with a plain mark. -/
  leaf : ∃ value, Json.read (String.ofList (spot.text n)) = .ok value ∧
    (Tree.ofJson value).leaves = before ++ .scalar (String.ofList (plainMark n)) :: after
  /-- Without a power of ten, it is the number as it was written. -/
  unchanged : (∀ c ∈ n, isMark c = false) → plainMark n = n
  /-- It denotes the same rational number, and no other. -/
  exact : ∃ q, ∀ r, (Denotes n r ↔ r = q) ∧ (Denotes (plainMark n) r ↔ r = q)
  /-- It is a number itself, and as such it is handed on unchanged. -/
  again : IsNumber (plainMark n) ∧ plainMark (plainMark n) = plainMark n
  /-- No other number becomes the same, unless they differ in nothing but the mark. -/
  apart : ∀ n', IsNumber n' → (plainMark n' = plainMark n ↔ DiffersInMark n' n)
  /-- Every builder stores it in a field of texts. -/
  stored : ∀ (builder : Builder) (field : Field),
    field.type ∈ [none, some .text, some .keyword] →
    builder.collectFor (.scalar (String.ofList (plainMark n))) field =
      pushValue field (String.ofList (plainMark n))
  /-- Every builder makes of it what it makes of the string of these characters. -/
  like_string : ∀ (builder : Builder) (scratch : Scratch),
    builder.buildText (String.ofList (spot.text n)) scratch =
      builder.buildText (String.ofList (spot.text (inQuotes (plainMark n)))) scratch

/-- **Numbers reach the fields without loss.** Wherever a number stands in a source text, it is
handed on as it was written but for the mark of its power of ten. The leaves around it do not depend
on the number. There is no other place for a number than a spot (`Json.exists_number_spot`). -/
theorem numbers_reach_fields {spot : Spot} (fits : spot.Fits maxDepth) :
    ∃ before after, ∀ n, IsNumber n → ReachesFields spot before after n := by
  obtain ⟨before, after, leaves_eq⟩ := fits.exists_leaves
  refine ⟨before, after, fun n number => ?_⟩
  obtain ⟨l, writes⟩ := number
  have number : IsNumber n := ⟨l, writes⟩
  have plain := isNumber_plainMark number
  have text_eq : l.text = String.ofList (plainMark n) := congrArg String.ofList writes.chars_eq
  have read_number := fits.read_text fun d => writes.isItem
  have read_string := fits.read_text plain.isItem_inQuotes
  constructor
  case leaf =>
    refine ⟨_, read_number, ?_⟩
    rw [leaves_eq, Tree.ofJson, text_eq]
    simp [Tree.leaves]
  case unchanged => exact plainMark_of_no_mark
  case exact =>
    refine ⟨l.exact, fun r => ?_⟩
    rw [denotes_plainMark number, writes.writesLiteral.denotes_iff]
    exact ⟨eq_comm, eq_comm⟩
  case again => exact ⟨plain, plainMark_plainMark n⟩
  case apart => exact fun n' number' => plainMark_eq_iff number' number
  case stored => exact fun builder field texts => collectFor_number plain builder texts
  case like_string =>
    intro builder scratch
    -- Both texts are read, as values of one tree.
    have same : Tree.ofJson (.number l) = Tree.ofJson (.string (String.ofList (plainMark n))) := by
      rw [Tree.ofJson, Tree.ofJson, text_eq]
    simp only [Builder.buildText, read_number, read_string, fits.ofJson_congr same]

/-- The spot of the first price in `\x7b"prices":[ …,7]\x7d`. -/
def priceSpot : Spot :=
  .member [] ⟨"\"prices\":".toList, "prices"⟩
    (.item [] (.blanks [' '] .here []) [⟨['7'], .number (Literal.ofInt 7)⟩]) []

theorem priceSpot_fits : priceSpot.Fits maxDepth := by
  have key : IsKey ([] ++ '"' :: ("prices".toList ++ '"' :: ([] ++ [':']))) "prices" :=
    .intro .nil (readString_escape "prices") .nil
  have seven : WritesNumber ['7'] (Literal.ofInt 7) := writesNumber_of_readNumber rfl
  have space : Blank [' '] := List.forall_mem_singleton.mpr rfl
  have prices : Spot.Fits 126
      (.item [] (.blanks [' '] .here []) [⟨['7'], .number (Literal.ofInt 7)⟩]) :=
    .item (List.forall_mem_nil _) (List.forall_mem_singleton.mpr seven.isItem)
      (.blanks space .nil (.here 125))
  exact .member (List.forall_mem_nil _) (List.forall_mem_nil _) key (by decide)
    List.not_mem_nil prices

theorem numbers_reach_fields_price :
    IsNumber "-1.50E5".toList ∧ plainMark "-1.50E5".toList = "-1.50e+5".toList ∧
      priceSpot.text "-1.50E5".toList = "\x7b\"prices\":[ -1.50E5,7]\x7d".toList ∧
      ∃ before after, ReachesFields priceSpot before after "-1.50E5".toList := by
  have number : IsNumber "-1.50E5".toList := ⟨_, writesNumber_of_readNumber rfl⟩
  obtain ⟨before, after, reach⟩ := numbers_reach_fields priceSpot_fits
  exact ⟨number, rfl, rfl, before, after, reach _ number⟩

end Intake
