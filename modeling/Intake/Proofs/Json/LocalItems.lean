import Intake.Proofs.Json.Items

/-!
# What a list depends on

A reader is local if what it takes off the front of a text, it takes off every text that begins with
the same characters, as long as what follows can follow a value (`LocalTo`). How deep a reader may
go is left open: the characters say how deep they nest, and a reader that may go so deep will do.

What was read as a list, with a local reader for its items, is the text of its items
(`readListBody_local`), so it is read again by `readListBody_of_isItems`.
-/

namespace Intake.Json

/-! ## What was read, and again -/

/-- The characters end with one that is no blank. -/
def EndsVisibly (used : List Char) : Prop :=
  ∃ before c, used = before ++ [c] ∧ isSpace c = false

theorem EndsVisibly.append {used : List Char} (h : EndsVisibly used) (before : List Char) :
    EndsVisibly (before ++ used) := by
  obtain ⟨inner, c, rfl, visible⟩ := h
  exact ⟨before ++ inner, c, by simp, visible⟩

theorem EndsVisibly.ne_nil {used : List Char} (h : EndsVisibly used) : used ≠ [] := by
  obtain ⟨before, c, rfl, -⟩ := h
  exact List.append_ne_nil_of_right_ne_nil _ (List.cons_ne_nil _ _)

theorem EndsVisibly.exists_visible {used : List Char} (h : EndsVisibly used) :
    ∃ before c t, Blank before ∧ used = before ++ c :: t ∧ isSpace c = false := by
  obtain ⟨inner, last, rfl, last_visible⟩ := h
  cases skip_eq : skipSpace (inner ++ [last]) with
  | nil =>
    have space := blank_of_skipSpace_eq_nil skip_eq last (by simp)
    rw [last_visible] at space
    cases space
  | cons c t =>
    obtain ⟨before, blank, text_eq, visible⟩ := of_skipSpace_eq_cons skip_eq
    exact ⟨before, c, t, blank, text_eq, visible⟩

theorem isPlain_of_isNumberChar {c : Char} (h : isNumberChar c = true) : isPlain c = true := by
  simp only [isPlain, isOpening, isClosing, Bool.and_eq_true, Bool.not_eq_true',
    Bool.or_eq_false_iff, beq_eq_false_iff_ne, bne_iff_ne]
  refine ⟨⟨⟨?_, ?_⟩, ?_, ?_⟩, ?_⟩ <;>
  · rintro rfl
    exact absurd h (by decide)

theorem isSpace_of_isNumberChar {c : Char} (h : isNumberChar c = true) : isSpace c = false := by
  refine Bool.eq_false_iff.mpr fun space => ?_
  have other : isNumberChar c = false :=
    isNumberChar_of_isStop (by rw [isStop, space, Bool.true_or, Bool.true_or])
  rw [h] at other
  cases other

theorem endsVisibly_of_isNumberChar {used : List Char} (some_chars : used ≠ [])
    (number : ∀ c ∈ used, isNumberChar c = true) : EndsVisibly used := by
  refine ⟨used.dropLast, used.getLast some_chars, ?_, ?_⟩
  · exact (List.dropLast_concat_getLast some_chars).symm
  · exact isSpace_of_isNumberChar (number _ (List.getLast_mem some_chars))

/-- What a reader takes off the front of a text, each of a family of readers takes off again if its
depth is enough for it. The reader itself goes no deeper than `most`. -/
def LocalTo {α : Type} (reader : Reader α) (most : Nat) (again : Nat → Reader α) : Prop :=
  ∀ s a rest, reader s = .ok (a, rest) →
    ∃ used n, s = used ++ rest ∧ EndsVisibly used ∧ n ≤ most ∧ Nests n used ∧
      ∀ d, n ≤ d → (again d).Takes Stops used a

/-! ## Lists -/

section

variable {α : Type}

/-- Where the first item of a list begins. -/
theorem nextItem_first_local {s rest : List Char} (h : nextItem true s = .ok (true, rest)) :
    ∃ before c t, Blank before ∧ s = before ++ c :: t ∧ rest = c :: t ∧ isSpace c = false ∧
      c ≠ ']' := by
  unfold nextItem at h
  split at h
  · cases h
  · next c t skip_eq =>
    obtain ⟨before, blank, rfl, visible⟩ := of_skipSpace_eq_cons skip_eq
    split at h
    · cases h
    · next not_end =>
      cases h
      exact ⟨before, c, t, blank, rfl, rfl, visible, not_end⟩

/-- Where an item of a list begins that follows others. -/
theorem nextItem_later_local {s rest : List Char} (h : nextItem false s = .ok (true, rest)) :
    ∃ gap before c t, Blank gap ∧ Blank before ∧ s = gap ++ ',' :: (before ++ c :: t) ∧
      rest = c :: t ∧ isSpace c = false ∧ c ≠ ']' := by
  unfold nextItem at h
  split at h
  · cases h
  · next d s' skip_eq =>
    obtain ⟨gap, blank, rfl, -⟩ := of_skipSpace_eq_cons skip_eq
    split at h
    · cases h
    rw [if_neg Bool.false_ne_true] at h
    split at h
    · next comma =>
      split at h
      · cases h
      · next c t skip_eq =>
        obtain ⟨before, blank_before, rfl, visible⟩ := of_skipSpace_eq_cons skip_eq
        split at h
        · cases h
        · next not_end =>
          cases h
          exact ⟨gap, before, c, t, blank, blank_before, by rw [comma], rfl, visible, not_end⟩
    · cases h

theorem nextItem_end_local {first : Bool} {s rest : List Char}
    (h : nextItem first s = .ok (false, rest)) :
    ∃ gap t, Blank gap ∧ s = gap ++ rest ∧ rest = ']' :: t := by
  unfold nextItem at h
  split at h
  · cases h
  · next c t skip_eq =>
    obtain ⟨gap, blank, rfl, -⟩ := of_skipSpace_eq_cons skip_eq
    split at h
    · next is_end =>
      cases h
      exact ⟨gap, t, blank, rfl, by rw [is_end]⟩
    split at h
    · cases h
    split at h
    · split at h
      · cases h
      · split at h <;> cases h
    · cases h

variable {item : Reader α} {most : Nat} {again : Nat → Reader α}

/-- An item that was read, with the blanks around it, is the text of an item. -/
theorem LocalTo.isItem (local_item : LocalTo item most again) {c : Char} {t rest : List Char}
    {a : α} (visible : isSpace c = false) (not_end : c ≠ ']') (h : item (c :: t) = .ok (a, rest)) :
    ∃ used n, c :: t = used ++ rest ∧ n ≤ most ∧ Nests n used ∧
      ∀ before after, Blank before → Blank after → ∀ d, n ≤ d →
        IsItem (again d) (before ++ (used ++ after)) a := by
  obtain ⟨used, n, text_eq, ends, le, nests, takes⟩ := local_item _ _ _ h
  obtain ⟨d, used, rfl⟩ := List.exists_cons_of_ne_nil ends.ne_nil
  obtain ⟨rfl, -⟩ := List.cons.inj text_eq
  exact ⟨c :: used, n, text_eq, le, nests, fun before after blank_before blank_after d le =>
    .intro blank_before visible not_end (takes d le) blank_after⟩

/-- Items after the first: the blanks before their comma belong to the item before. -/
theorem readItems_later_local (local_item : LocalTo item most again) {fuel : Nat}
    {s rest : List Char} {as : List α} (h : readItems item fuel false s = .ok (as, rest)) :
    ∃ gap more n t, Blank gap ∧ s = gap ++ (more ++ rest) ∧ rest = ']' :: t ∧ n ≤ most ∧
      Nests n more ∧ ∀ d, n ≤ d → IsTail (IsItem (again d)) more as := by
  induction fuel generalizing s as rest with
  | zero => cases h
  | succ fuel ih =>
    rw [readItems] at h
    obtain ⟨⟨more?, s₁⟩, next_eq, read_eq⟩ := bind_eq_ok.mp h
    cases more? with
    | false =>
      cases read_eq
      obtain ⟨gap, t, blank, rfl, rfl⟩ := nextItem_end_local next_eq
      exact ⟨gap, [], 0, t, blank, rfl, rfl, Nat.zero_le _, .nil, fun d le => .nil⟩
    | true =>
      obtain ⟨⟨a, s₂⟩, item_eq, read_eq⟩ := bind_eq_ok.mp read_eq
      obtain ⟨⟨as', s₃⟩, rest_eq, read_eq⟩ := bind_eq_ok.mp read_eq
      cases read_eq
      obtain ⟨gap, before, c, t, blank, blank_before, rfl, rfl, visible, not_end⟩ :=
        nextItem_later_local next_eq
      obtain ⟨used, n, text_eq, le_most, nests, is_item⟩ :=
        local_item.isItem visible not_end item_eq
      obtain ⟨after, more, m, t', blank_after, rfl, rest_eq, more_le, more_nests, is_tail⟩ :=
        ih rest_eq
      have text_nests := blank_before.nests.append (nests.append blank_after.nests)
      refine ⟨gap, ',' :: (before ++ (used ++ after) ++ more), _, t', blank, ?_, rest_eq, by omega,
        (text_nests.append more_nests).plain_cons rfl, fun d le => ?_⟩
      · rw [text_eq]
        simp
      · exact .cons (is_item before after blank_before blank_after d (by omega))
          (is_tail d (by omega))

/-- **What was read as a list is the text of its items.** -/
theorem readListBody_local (local_item : LocalTo item most again) {s rest : List Char} {as : List α}
    (h : readListBody item s = .ok (as, rest)) :
    ∃ text n, s = text ++ ']' :: rest ∧ n ≤ most ∧ Nests n text ∧
      ∀ d, n ≤ d → IsItems (IsItem (again d)) text as := by
  obtain ⟨⟨as', s₁⟩, items_eq, h⟩ := bind_eq_ok.mp h
  obtain ⟨s₂, close_eq, h⟩ := bind_eq_ok.mp h
  cases h
  rw [readItems] at items_eq
  obtain ⟨⟨more?, s₃⟩, next_eq, read_eq⟩ := bind_eq_ok.mp items_eq
  cases more? with
  | false =>
    cases read_eq
    obtain ⟨gap, t, blank, rfl, rfl⟩ := nextItem_end_local next_eq
    cases close_eq
    exact ⟨gap, 0, rfl, Nat.zero_le _, blank.nests, fun d le => .nil blank⟩
  | true =>
    obtain ⟨⟨a, s₄⟩, item_eq, read_eq⟩ := bind_eq_ok.mp read_eq
    obtain ⟨⟨as', s₅⟩, rest_eq, read_eq⟩ := bind_eq_ok.mp read_eq
    cases read_eq
    obtain ⟨before, c, t, blank_before, rfl, rfl, visible, not_end⟩ := nextItem_first_local next_eq
    obtain ⟨used, n, text_eq, le_most, nests, is_item⟩ := local_item.isItem visible not_end item_eq
    obtain ⟨after, more, m, t', blank_after, rfl, rfl, more_le, more_nests, is_tail⟩ :=
      readItems_later_local local_item rest_eq
    cases close_eq
    have text_nests := blank_before.nests.append (nests.append blank_after.nests)
    refine ⟨before ++ (used ++ after) ++ more, _, ?_, ?_, text_nests.append more_nests,
      fun d le => ?_⟩
    · rw [text_eq]
      simp
    · omega
    · exact .cons (is_item before after blank_before blank_after d (by omega))
        (is_tail d (by omega))

end

end Intake.Json
