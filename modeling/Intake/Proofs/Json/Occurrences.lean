import Intake.Proofs.Json.Spots

/-!
# Every value stands at a spot

Whatever occurs in a value that was read stands at a spot of its text (`exists_spot_of_read`): lists
and objects are taken apart along their brackets and commas. A number stands there as a number, or
else in disguise, as the text after the number marker (`exists_number_spot`).
-/

namespace Intake.Json

/-! ## Taking texts apart -/

/-- The texts between the commas of a list. -/
theorem IsItems.exists_written {α : Type} {Item : List Char → α → Prop} {text : List Char}
    {a : α} {as : List α} (h : IsItems Item text (a :: as)) :
    ∃ pieces : List (Written α), pieces.map Written.value = a :: as ∧
      text = [','].intercalate (pieces.map Written.chars) ∧
      ∀ w ∈ pieces, Item w.chars w.value := by
  have of_tail {more : List Char} {as : List α} (tail : IsTail Item more as) :
      ∃ pieces : List (Written α), pieces.map Written.value = as ∧
        more = (pieces.map Written.chars).flatMap (fun text => ',' :: text) ∧
        ∀ w ∈ pieces, Item w.chars w.value := by
    induction tail with
    | nil => exact ⟨[], rfl, rfl, List.forall_mem_nil _⟩
    | @cons text more a as item tail ih =>
      obtain ⟨pieces, rfl, rfl, are⟩ := ih
      exact ⟨⟨text, a⟩ :: pieces, rfl, by simp, List.forall_mem_cons.mpr ⟨item, are⟩⟩
  cases h with
  | @cons text more a as item tail =>
    obtain ⟨pieces, rfl, rfl, are⟩ := of_tail tail
    refine ⟨⟨text, a⟩ :: pieces, rfl, ?_, List.forall_mem_cons.mpr ⟨item, are⟩⟩
    rw [List.map_cons, intercalate_comma]

/-- One text and those around it. -/
theorem IsItems.exists_among {α : Type} {Item : List Char → α → Prop} {text : List Char}
    {front back : List α} {a : α} (h : IsItems Item text (front ++ a :: back)) :
    ∃ (before after : List (Written α)) (chars : List Char),
      before.map Written.value = front ∧ after.map Written.value = back ∧
      text = [','].intercalate (before.map Written.chars ++ chars :: after.map Written.chars) ∧
      (∀ w ∈ before, Item w.chars w.value) ∧ Item chars a ∧
      ∀ w ∈ after, Item w.chars w.value := by
  obtain ⟨b, bs, values_eq⟩ : ∃ b bs, front ++ a :: back = b :: bs :=
    List.exists_cons_of_ne_nil (List.append_ne_nil_of_right_ne_nil _ (List.cons_ne_nil _ _))
  rw [values_eq] at h
  obtain ⟨pieces, pieces_eq, rfl, are⟩ := h.exists_written
  rw [← values_eq] at pieces_eq
  obtain ⟨before, others, rfl, rfl, others_eq⟩ := List.map_eq_append_iff.mp pieces_eq
  obtain ⟨⟨chars, a'⟩, after, rfl, rfl, rfl⟩ := List.map_eq_cons_iff.mp others_eq
  rw [List.forall_mem_append, List.forall_mem_cons] at are
  exact ⟨before, after, chars, rfl, rfl, by simp, are.1, are.2.1, are.2.2⟩

theorem nodup_keys_addMembers {before : List (String × Json)}
    (distinct : (before.map Prod.fst).Nodup) (added : List (String × Json)) :
    ((addMembers false before added).map Prod.fst).Nodup := by
  induction added generalizing before with
  | nil => exact distinct
  | cons member added ih => exact ih (nodup_keys_putEntry distinct)

/-- A member that is there in the end is the last of its key that was added. -/
theorem exists_last_of_mem_addMembers {member : String × Json} {added : List (String × Json)}
    (mem : member ∈ addMembers false [] added) :
    ∃ front back, added = front ++ member :: back ∧ member.1 ∉ back.map Prod.fst := by
  induction added using List.reverseRecOn with
  | nil => cases mem
  | append_singleton added last ih =>
    have distinct : ((addMembers false [] added).map Prod.fst).Nodup :=
      nodup_keys_addMembers (by simp) added
    rw [addMembers_append] at mem
    obtain rfl | ⟨other, old⟩ := mem_putEntry_of_nodup distinct mem
    · exact ⟨added, [], rfl, List.not_mem_nil⟩
    · obtain ⟨front, back, rfl, fresh⟩ := ih old
      refine ⟨front, back ++ [last], by simp, ?_⟩
      simpa using ⟨by simpa using fresh, other⟩

/-! ## Taking values apart -/

/-- A list or an object. -/
def isNested : Json → Bool
  | .array _ => true
  | .object _ => true
  | _ => false

/-- A value that is read is a scalar, or it begins with the bracket of a list or an object. A scalar
that is a number is read as one. -/
theorem of_readWith {list object : Reader Json} {c : Char} {s rest : List Char} {v : Json}
    (visible : isSpace c = false) (h : readWith list object (c :: s) = .ok (v, rest)) :
    (v.isNested = false ∧ ∀ l, v = .number l → readNumber (c :: s) = .ok (l, rest)) ∨
      (c = '[' ∧ list ('[' :: s) = .ok (v, rest)) ∨
      (c = '\x7b' ∧ object ('\x7b' :: s) = .ok (v, rest)) := by
  unfold readWith at h
  rw [skipSpace_cons visible] at h
  split at h
  case h_1 same => cases same
  case h_2 =>
    obtain ⟨rfl, -⟩ := word_local h
    exact .inl ⟨rfl, nofun⟩
  case h_3 =>
    obtain ⟨rfl, -⟩ := word_local h
    exact .inl ⟨rfl, nofun⟩
  case h_4 =>
    obtain ⟨rfl, -⟩ := word_local h
    exact .inl ⟨rfl, nofun⟩
  case h_5 =>
    obtain ⟨string, -, done⟩ := bind_eq_ok.mp h
    cases done
    exact .inl ⟨rfl, nofun⟩
  case h_6 same =>
    cases same
    exact .inr (.inl ⟨rfl, h⟩)
  case h_7 same =>
    cases same
    exact .inr (.inr ⟨rfl, h⟩)
  case h_8 same =>
    cases same
    split at h
    · obtain ⟨⟨l, rest'⟩, number_eq, done⟩ := bind_eq_ok.mp h
      cases done
      refine .inl ⟨rfl, fun l' same => ?_⟩
      cases same
      exact number_eq
    · cases h

theorem of_readWith_nested {list object : Reader Json} {c : Char} {s rest : List Char} {v : Json}
    (visible : isSpace c = false) (nested : v.isNested = true)
    (h : readWith list object (c :: s) = .ok (v, rest)) :
    (c = '[' ∧ list ('[' :: s) = .ok (v, rest)) ∨
      (c = '\x7b' ∧ object ('\x7b' :: s) = .ok (v, rest)) := by
  refine (of_readWith visible h).resolve_left fun scalar => ?_
  rw [nested] at scalar
  cases scalar.1

/-- **A text that is read as a list or an object** has its brackets between blanks, and between the
brackets the text of its items or members. -/
theorem IsItem.exists_nested {depth : Nat} {text : List Char} {v : Json} (nested : v.isNested = true)
    (h : IsItem (readValue false depth) text v) :
    ∃ d before inner after, depth = d + 1 ∧ Blank before ∧ Blank after ∧
      ((∃ values, v = .array values ∧ text = before ++ ('[' :: (inner ++ [']']) ++ after) ∧
          IsItems (IsItem (readValue false d)) inner values) ∨
        (text = before ++ ('\x7b' :: (inner ++ ['\x7d']) ++ after) ∧
          IsObject false d (readValue false) inner v)) := by
  cases h with
  | @intro before used after c v blank_before visible not_end takes blank_after =>
    have read := takes [] .nil
    rw [List.append_nil] at read
    cases depth with
    | zero =>
      obtain ⟨-, too_deep⟩ | ⟨-, too_deep⟩ := of_readWith_nested visible nested read
      · cases too_deep
      · cases too_deep
    | succ d =>
      obtain ⟨rfl, list_read⟩ | ⟨rfl, object_read⟩ := of_readWith_nested visible nested read
      · obtain ⟨⟨values, rest⟩, body_read, done⟩ := bind_eq_ok.mp list_read
        cases done
        obtain ⟨inner, n, text_eq, le, -, are_items⟩ :=
          readListBody_local (readValue_local false d) body_read
        obtain rfl : used = inner ++ [']'] := text_eq
        exact ⟨d, before, inner, after, rfl, blank_before, blank_after,
          .inl ⟨values, rfl, rfl, are_items d le⟩⟩
      · obtain ⟨inner, text_eq, is_object⟩ :=
          isObject_of_readObjectBody (readValue_local false d) object_read
        obtain rfl : used = inner ++ ['\x7d'] := text_eq
        exact ⟨d, before, inner, after, rfl, blank_before, blank_after, .inr ⟨rfl, is_object⟩⟩

/-- What is taken as a value is the text of a value, with any blanks after it. -/
theorem Reader.Takes.isItem {depth : Nat} {text after : List Char} {v : Json}
    (takes : (readValue false depth).Takes Stops text v) (blank : Blank after) :
    IsItem (readValue false depth) (text ++ after) v := by
  -- Read alone, it tells how deep it nests and how it begins.
  have read := takes.readAll blank
  obtain ⟨-, -, -, -, -, deep, -⟩ := readAll_local read
  exact isItem_of_readAll read deep

/-! ## Every value stands at a spot -/

/-- The value occurs in a whole value: it is the whole, or it occurs in an item or member. -/
inductive Occurs (v : Json) : Json → Prop
  | here : Occurs v v
  | item {values : List Json} {u : Json} (mem : u ∈ values) (inner : Occurs v u) :
      Occurs v (.array values)
  | member {members : List (String × Json)} {key : String} {u : Json}
      (mem : (key, u) ∈ members) (inner : Occurs v u) : Occurs v (.object members)

/-- A text that is taken as a value, without blanks in front. -/
structure IsBare (w : List Char) (v : Json) : Prop where
  visible : ∃ c used, w = c :: used ∧ isSpace c = false
  takes : ∃ depth, (readValue false depth).Takes Stops w v

/-- **What occurs in a value stands at a spot of its text.** -/
theorem exists_spot {depth : Nat} {text : List Char} {v whole : Json} (occurs : Occurs v whole)
    (h : IsItem (readValue false depth) text whole) :
    ∃ (spot : Spot) (w : List Char), spot.Fits depth ∧ text = spot.text w ∧
      whole = spot.fill v ∧ IsBare w v := by
  -- Each step down takes one pair of brackets off the text and one level off the depth.
  induction occurs generalizing depth text with
  | here =>
    cases h with
    | @intro before used after c v blank_before visible not_end takes blank_after =>
      exact ⟨.blanks before .here after, c :: used, .blanks blank_before blank_after (.here depth),
        rfl, rfl, ⟨c, used, rfl, visible⟩, ⟨depth, takes⟩⟩
  | item mem inner ih =>
    obtain ⟨d, before, body, after, rfl, blank_before, blank_after,
      ⟨values, same, rfl, are_items⟩ | ⟨-, is_object⟩⟩ := h.exists_nested rfl
    · obtain rfl := Json.array.inj same
      obtain ⟨front, back, rfl⟩ := List.append_of_mem mem
      obtain ⟨items_before, items_after, chars, rfl, rfl, rfl, are_before, is_item, are_after⟩ :=
        are_items.exists_among
      obtain ⟨spot, w, fits, rfl, rfl, bare⟩ := ih is_item
      exact ⟨.blanks before (.item items_before spot items_after) after, w,
        .blanks blank_before blank_after (.item are_before are_after fits),
        rfl, rfl, bare⟩
    · cases is_object
  | @member members key u mem inner ih =>
    obtain ⟨d, before, body, after, rfl, blank_before, blank_after,
      ⟨values, same, -, -⟩ | ⟨rfl, is_object⟩⟩ := h.exists_nested rfl
    · cases same
    · cases is_object with
      | @members _ added n le_most nests unmarked are_members =>
        -- Of several members with the key, the value comes from the last.
        obtain ⟨front, back, rfl, last⟩ := exists_last_of_mem_addMembers mem
        obtain ⟨members_before, members_after, chars, rfl, rfl, rfl, are_before, is_member,
          are_after⟩ := (are_members d le_most).exists_among
        cases is_member with
        | @intro keyText value after_value _ _ is_key takes blank_value =>
          obtain ⟨spot, w, fits, text_eq, rfl, bare⟩ := ih (takes.isItem blank_value)
          have no_marker := unmarked rfl
          refine ⟨.blanks before (.member members_before ⟨keyText, key⟩ spot members_after) after,
            w, .blanks blank_before blank_after (.member are_before are_after is_key ?_ ?_ fits),
            ?_, rfl, bare⟩
          · cases members_before with
            | nil => exact no_marker
            | cons first members_before => exact no_marker
          · simpa using last
          · rw [text_eq]
            rfl

/-- **Whatever occurs in a value that was read stands at a spot of its text.** -/
theorem exists_spot_of_read {source : String} {v whole : Json}
    (h : Json.read source = .ok whole) (occurs : Occurs v whole) :
    ∃ (spot : Spot) (w : List Char), spot.Fits maxDepth ∧
      source = String.ofList (spot.text w) ∧ whole = spot.fill v ∧ IsBare w v := by
  obtain ⟨-, -, -, -, -, deep, -⟩ := readAll_local h
  obtain ⟨spot, w, fits, text_eq, whole_eq, bare⟩ :=
    exists_spot occurs (isItem_of_readAll h deep)
  exact ⟨spot, w, fits, by rw [← text_eq, String.ofList_toList], whole_eq, bare⟩

/-- An object whose first key is the number marker. -/
def IsMarked (w : List Char) : Prop :=
  ∃ keyText more, IsKey keyText numberMarker ∧ w = '\x7b' :: (keyText ++ more)

/-- **A number is read from a number**, or from an object that is marked as one. -/
theorem IsBare.number {w : List Char} {l : Numeral.Literal} (h : IsBare w (.number l)) :
    WritesNumber w l ∨ IsMarked w := by
  obtain ⟨⟨c, used, rfl, visible⟩, depth, takes⟩ := h
  have read := takes [] .nil
  rw [List.append_nil] at read
  cases depth with
  | zero =>
    obtain ⟨-, scalar⟩ | ⟨-, too_deep⟩ | ⟨-, too_deep⟩ := of_readWith visible read
    · exact .inl (writesNumber_of_readNumber (scalar l rfl))
    · cases too_deep
    · cases too_deep
  | succ d =>
    obtain ⟨-, scalar⟩ | ⟨-, list_read⟩ | ⟨rfl, object_read⟩ := of_readWith visible read
    · exact .inl (writesNumber_of_readNumber (scalar l rfl))
    · obtain ⟨items, -, done⟩ := bind_eq_ok.mp list_read
      cases done
    · obtain ⟨body, text_eq, is_object⟩ :=
        isObject_of_readObjectBody (readValue_local false d) object_read
      obtain rfl : used = body ++ ['\x7d'] := text_eq
      cases is_object with
      | @marked keyText more _ is_key nests reads =>
        exact .inr ⟨keyText, more ++ ['\x7d'], is_key, by simp⟩

/-- **Every number that was read stands at a spot of its text**, as a number or marked as one. -/
theorem exists_number_spot {source : String} {l : Numeral.Literal} {whole : Json}
    (h : Json.read source = .ok whole) (occurs : Occurs (.number l) whole) :
    ∃ (spot : Spot) (w : List Char), spot.Fits maxDepth ∧
      source = String.ofList (spot.text w) ∧ whole = spot.fill (.number l) ∧
      (WritesNumber w l ∨ IsMarked w) := by
  obtain ⟨spot, w, fits, source_eq, whole_eq, bare⟩ := exists_spot_of_read h occurs
  exact ⟨spot, w, fits, source_eq, whole_eq, bare.number⟩

end Intake.Json
