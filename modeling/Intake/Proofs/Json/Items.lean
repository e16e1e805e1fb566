import Mathlib.Data.List.Forall2
import Intake.Proofs.Json.Pieces

/-!
# The text of a list

The items of a list stand between commas, with any blanks around them. `IsItems` says which texts
are such, for items of any kind, and a list is read off every one of them
(`readListBody_of_isItems`).
-/

namespace Intake.Json

/-! ## Blanks -/

/-- The characters are blanks. -/
def Blank (gap : List Char) : Prop := ∀ c ∈ gap, isSpace c = true

theorem Blank.nil : Blank [] := List.forall_mem_nil _

theorem Blank.nests {gap : List Char} (h : Blank gap) : Nests 0 gap := by
  refine .plain fun c mem => ?_
  have space := h c mem
  simp only [isSpace, Bool.or_eq_true, beq_iff_eq, or_assoc] at space
  rcases space with rfl | rfl | rfl | rfl <;> decide

/-- Blanks do not change what may follow a value. -/
theorem Blank.stops {gap rest : List Char} (h : Blank gap) (stops : Stops rest) :
    Stops (gap ++ rest) := by
  cases gap with
  | nil => exact stops
  | cons c gap =>
    refine .cons ?_ _
    rw [isStop, h c List.mem_cons_self, Bool.true_or, Bool.true_or]

/-- Where there is no blank, none is skipped. -/
theorem skipSpace_cons {c : Char} (h : isSpace c = false) (rest : List Char) :
    skipSpace (c :: rest) = c :: rest := by
  rw [skipSpace, List.dropWhile_cons_of_neg (by simp [h])]

theorem skipSpace_append {gap : List Char} (h : Blank gap) (rest : List Char) :
    skipSpace (gap ++ rest) = skipSpace rest := List.dropWhile_append_of_pos h

theorem skipSpace_gap {gap : List Char} (h : Blank gap) {c : Char} (visible : isSpace c = false)
    (rest : List Char) : skipSpace (gap ++ c :: rest) = c :: rest := by
  rw [skipSpace_append h, skipSpace_cons visible]

theorem blank_takeWhile (s : List Char) : Blank (s.takeWhile isSpace) :=
  List.all_eq_true.mp List.all_takeWhile

theorem takeWhile_append_skipSpace (s : List Char) : s.takeWhile isSpace ++ skipSpace s = s :=
  List.takeWhile_append_dropWhile

/-- What is left when blanks are skipped begins with none. -/
theorem of_skipSpace_eq_cons {s rest : List Char} {c : Char} (h : skipSpace s = c :: rest) :
    ∃ gap, Blank gap ∧ s = gap ++ c :: rest ∧ isSpace c = false := by
  refine ⟨s.takeWhile isSpace, blank_takeWhile s, ?_, ?_⟩
  · rw [← h, takeWhile_append_skipSpace]
  · have visible := List.head?_dropWhile_not isSpace s
    rw [← skipSpace, h] at visible
    simpa using visible

theorem blank_of_skipSpace_eq_nil {s : List Char} (h : skipSpace s = []) : Blank s := by
  have whole := takeWhile_append_skipSpace s
  rw [h, List.append_nil] at whole
  exact whole ▸ blank_takeWhile s

/-! ## Items between commas -/

section

variable {α : Type}

/-- The text of an item that a reader can read: blanks may stand before and after it, and it does
not begin like the end of the list. -/
inductive IsItem (item : Reader α) : List Char → α → Prop
  | intro {before used after : List Char} {c : Char} {a : α} (blank_before : Blank before)
      (visible : isSpace c = false) (not_end : c ≠ ']')
      (takes : item.Takes Stops (c :: used) a) (blank_after : Blank after) :
      IsItem item (before ++ (c :: used ++ after)) a

/-- The text of items that follow others, each after its comma. -/
inductive IsTail (Item : List Char → α → Prop) : List Char → List α → Prop
  | nil : IsTail Item [] []
  | cons {text more : List Char} {a : α} {as : List α} (item : Item text a)
      (tail : IsTail Item more as) : IsTail Item (',' :: (text ++ more)) (a :: as)

/-- The text of the items of a list. -/
inductive IsItems (Item : List Char → α → Prop) : List Char → List α → Prop
  | nil {gap : List Char} (blank : Blank gap) : IsItems Item gap []
  | cons {text more : List Char} {a : α} {as : List α} (item : Item text a)
      (tail : IsTail Item more as) : IsItems Item (text ++ more) (a :: as)

theorem IsTail.stops {Item : List Char → α → Prop} {more : List Char} {as : List α}
    (h : IsTail Item more as) (closing : Char) (stop : isStop closing = true) (rest : List Char) :
    Stops (more ++ closing :: rest) := by
  cases h with
  | nil => exact .cons stop _
  | cons => exact .cons (by decide) _

theorem IsTail.length_le {Item : List Char → α → Prop} {more : List Char} {as : List α}
    (h : IsTail Item more as) : as.length ≤ more.length := by
  induction h with
  | nil => exact Nat.le_refl 0
  | cons item tail ih =>
    rw [List.length_cons, List.length_cons, List.length_append]
    omega

theorem isTail_flatMap {Item : List Char → α → Prop} {texts : List (List Char)} {as : List α}
    (items : List.Forall₂ Item texts as) :
    IsTail Item (texts.flatMap fun text => ',' :: text) as := by
  induction items with
  | nil => exact .nil
  | cons first rest ih =>
    rw [List.flatMap_cons]
    exact .cons first ih

theorem intercalate_comma (text : List Char) (texts : List (List Char)) :
    [','].intercalate (text :: texts) = text ++ texts.flatMap fun text => ',' :: text := by
  induction texts generalizing text with
  | nil => simp
  | cons second texts ih =>
    rw [List.intercalate_cons_cons, ih, List.flatMap_cons]
    simp

/-- Items with commas between are the text of a list. -/
theorem isItems_intercalate {Item : List Char → α → Prop} {texts : List (List Char)} {as : List α}
    (items : List.Forall₂ Item texts as) : IsItems Item ([','].intercalate texts) as := by
  cases items with
  | nil => exact .nil .nil
  | cons first rest =>
    rw [intercalate_comma]
    exact .cons first (isTail_flatMap rest)

/-! ## Reading them -/

theorem nextItem_end {gap : List Char} (blank : Blank gap) (first : Bool) (rest : List Char) :
    nextItem first (gap ++ ']' :: rest) = .ok (false, ']' :: rest) := by
  rw [nextItem, skipSpace_gap blank (by decide)]
  rfl

theorem nextItem_first {before : List Char} {c : Char} (blank : Blank before)
    (visible : isSpace c = false) (not_end : c ≠ ']') (rest : List Char) :
    nextItem true (before ++ c :: rest) = .ok (true, c :: rest) := by
  rw [nextItem, skipSpace_gap blank visible]
  simp only [if_neg not_end, if_true]

theorem nextItem_later {gap before : List Char} {c : Char} (blank : Blank gap)
    (blank_before : Blank before) (visible : isSpace c = false) (not_end : c ≠ ']')
    (rest : List Char) :
    nextItem false (gap ++ ',' :: (before ++ c :: rest)) = .ok (true, c :: rest) := by
  rw [nextItem, skipSpace_gap blank (by decide)]
  simp only [skipSpace_gap blank_before visible, if_neg not_end]
  rfl

variable {item : Reader α}

/-- Items after the first are read up to the end of their list. -/
theorem readItems_of_isTail {more : List Char} {as : List α} (h : IsTail (IsItem item) more as)
    {gap : List Char} (blank : Blank gap) {fuel : Nat} (enough : as.length < fuel)
    (rest : List Char) :
    readItems item fuel false (gap ++ (more ++ ']' :: rest)) = .ok (as, ']' :: rest) := by
  induction h generalizing gap fuel with
  | nil =>
    obtain ⟨fuel, rfl⟩ := Nat.exists_eq_add_one_of_ne_zero (Nat.ne_zero_of_lt enough)
    rw [readItems, List.nil_append, nextItem_end blank]
    rfl
  | @cons text more a as is_item tail ih =>
    obtain ⟨fuel, rfl⟩ := Nat.exists_eq_add_one_of_ne_zero (Nat.ne_zero_of_lt enough)
    obtain ⟨before_blank, visible, not_end, takes, after_blank⟩ := is_item
    have tail_read := ih after_blank (Nat.lt_of_succ_lt_succ enough)
    have item_read := takes _ (after_blank.stops (tail.stops ']' rfl rest))
    simp only [List.cons_append, List.append_assoc] at item_read ⊢
    rw [readItems, nextItem_later blank before_blank visible not_end]
    show (item _ >>= fun r => _) = _
    rw [item_read]
    show (readItems item fuel false _ >>= fun r => _) = _
    rw [tail_read]
    rfl

/-- **A list is read off the text of its items** and its closing bracket. -/
theorem readListBody_of_isItems {text : List Char} {as : List α}
    (h : IsItems (IsItem item) text as) (rest : List Char) :
    readListBody item (text ++ ']' :: rest) = .ok (as, rest) := by
  have items_read : readItems item ((text ++ ']' :: rest).length + 1) true (text ++ ']' :: rest) =
      .ok (as, ']' :: rest) := by
    cases h with
    | nil blank =>
      rw [readItems, nextItem_end blank]
      rfl
    | @cons text more a as is_item tail =>
      have enough : as.length < (text ++ more ++ ']' :: rest).length := by
        have := tail.length_le
        simp only [List.length_append, List.length_cons]
        omega
      generalize (text ++ more ++ ']' :: rest).length = fuel at enough
      obtain ⟨before_blank, visible, not_end, takes, after_blank⟩ := is_item
      have tail_read := readItems_of_isTail tail after_blank enough rest
      have item_read := takes _ (after_blank.stops (tail.stops ']' rfl rest))
      simp only [List.cons_append, List.append_assoc] at item_read ⊢
      rw [readItems, nextItem_first before_blank visible not_end]
      show (item _ >>= fun r => _) = _
      rw [item_read]
      show (readItems item fuel false _ >>= fun r => _) = _
      rw [tail_read]
      rfl
  rw [readListBody, items_read]
  rfl

end

end Intake.Json
