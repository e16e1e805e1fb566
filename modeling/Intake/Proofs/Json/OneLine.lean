import Intake.Build

/-!
# JSON text on one line

Inside a string every character below the space is written as an escape, and everything else that
the printer adds is visible. So the text of a value that holds no number, a document's for one, has
no control character in it, and above all no line feed.
-/

namespace Intake

open Intake.Text

/-- Is the character the space or one after it? -/
def isPrintable (c : Char) : Bool := 32 ≤ c.toNat

theorem lineFeed_not_mem {cs : List Char} (printable : cs.all isPrintable = true) : '\n' ∉ cs := by
  intro mem
  have := List.all_eq_true.mp printable '\n' mem
  simp [isPrintable] at this

theorem Builder.hasLineFeed_eq_false_iff {text : String} :
    hasLineFeed text = false ↔ '\n' ∉ text.toList := by
  rw [hasLineFeed, ← Bool.not_eq_true, List.contains_iff_mem]

namespace Json

/-! ## Strings -/

theorem hexDigit_isPrintable {n : Nat} (h : n < 16) : isPrintable (hexDigit n) = true := by
  have all : ∀ k < 16, isPrintable (hexDigit k) = true := by decide
  exact all n h

/-- **An escape is printable**, whatever it stands for. -/
theorem escapeChar_isPrintable (c : Char) : (escapeChar c).all isPrintable = true := by
  unfold escapeChar
  repeat' split
  any_goals decide
  · next h =>
    have high := hexDigit_isPrintable (n := c.toNat / 16) (by omega)
    have low := hexDigit_isPrintable (n := c.toNat % 16) (by omega)
    simp only [List.all_cons, high, low]
    decide
  · next h => simpa [isPrintable] using h

theorem stringChars_isPrintable (s : String) : (stringChars s).all isPrintable = true := by
  have content : (escape s.toList).all isPrintable = true := by
    rw [escape, List.all_flatMap, List.all_eq_true]
    exact fun c _ => escapeChar_isPrintable c
  rw [stringChars, List.all_append, List.all_cons, content]
  decide

/-! ## Values without numbers -/

mutual

/-- Is there no number in the value? -/
def isTextual : Json → Bool
  | .number _ => false
  | .array items => areTextual items
  | .object members => membersAreTextual members
  | .null | .bool _ | .string _ => true

/-- Is there no number in any of the values? -/
def areTextual : List Json → Bool
  | [] => true
  | item :: rest => item.isTextual && areTextual rest

/-- Is there no number in any of the members? -/
def membersAreTextual : List (String × Json) → Bool
  | [] => true
  | (_, value) :: rest => value.isTextual && membersAreTextual rest

end

theorem areTextual_eq_all (items : List Json) : areTextual items = items.all isTextual := by
  induction items <;> simp_all [areTextual]

theorem membersAreTextual_eq_all (members : List (String × Json)) :
    membersAreTextual members = members.all fun member => member.2.isTextual := by
  induction members <;> simp_all [membersAreTextual]

theorem keyChars_isPrintable (key : String) : (keyChars key).all isPrintable = true := by
  rw [keyChars, List.all_append, stringChars_isPrintable]
  decide

mutual

/-- **The text of a value without numbers is printable.** -/
theorem chars_isPrintable : ∀ value : Json, value.isTextual = true →
    value.chars.all isPrintable = true
  | .null, _ => by decide
  | .bool true, _ => by decide
  | .bool false, _ => by decide
  | .number _, h => by simp [isTextual] at h
  | .string s, _ => by rw [chars]; exact stringChars_isPrintable s
  | .array items, h => by
    have inner := itemsChars_isPrintable items (by simpa only [isTextual] using h)
    rw [chars, List.all_append, List.all_cons, inner]
    decide
  | .object members, h => by
    have inner := membersChars_isPrintable members (by simpa only [isTextual] using h)
    rw [chars, List.all_append, List.all_cons, inner]
    decide

theorem itemsChars_isPrintable : ∀ items : List Json, areTextual items = true →
    (itemsChars items).all isPrintable = true
  | [], _ => rfl
  | [item], h => by
    simp only [areTextual, Bool.and_eq_true] at h
    exact chars_isPrintable item h.1
  | item :: second :: rest, h => by
    rw [areTextual, Bool.and_eq_true] at h
    have first := chars_isPrintable item h.1
    have others := itemsChars_isPrintable (second :: rest) h.2
    rw [itemsChars, List.all_append, List.all_cons, first, others]
    · decide
    · simp

theorem membersChars_isPrintable : ∀ members : List (String × Json),
    membersAreTextual members = true → (membersChars members).all isPrintable = true
  | [], _ => rfl
  | [(key, value)], h => by
    simp only [membersAreTextual, Bool.and_eq_true] at h
    rw [membersChars, List.all_append, keyChars_isPrintable, chars_isPrintable value h.1]
    decide
  | (key, value) :: second :: rest, h => by
    rw [membersAreTextual, Bool.and_eq_true] at h
    have first := chars_isPrintable value h.1
    have others := membersChars_isPrintable (second :: rest) h.2
    rw [membersChars, List.all_append, List.all_append, List.all_cons, keyChars_isPrintable, first,
      others]
    · decide
    · simp

end

end Json

/-! ## Document lines -/

namespace Document

theorem valuesToJson_isTextual (values : List String) :
    (valuesToJson values).isTextual = true := by
  unfold valuesToJson
  split
  · rfl
  · rw [Json.isTextual, Json.areTextual_eq_all, List.all_map, List.all_eq_true]
    exact fun _ _ => rfl

theorem toJson_isTextual (doc : Document) : doc.toJson.isTextual = true := by
  rw [toJson, Json.isTextual, Json.membersAreTextual_eq_all, List.all_map, List.all_eq_true]
  exact fun entry _ => valuesToJson_isTextual entry.values

/-- **A document line is printable**, whatever names and values the document holds. -/
theorem line_isPrintable (doc : Document) : doc.line.toList.all isPrintable = true := by
  rw [line, Json.text, String.toList_ofList]
  exact Json.chars_isPrintable doc.toJson doc.toJson_isTextual

/-- **A document line is one line.** -/
theorem hasLineFeed_line (doc : Document) : Builder.hasLineFeed doc.line = false :=
  Builder.hasLineFeed_eq_false_iff.mpr (lineFeed_not_mem doc.line_isPrintable)

end Document

end Intake
