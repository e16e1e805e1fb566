import Intake.Proofs.Json.Locality
import Intake.Proofs.Json.RoundTrip
import Intake.Tree

/-!
# Spots in a text

A spot is a place in a JSON text where a value stands: the whole text, perhaps between blanks, or an
item of a list or a member of an object at another spot. Around it stand texts of other values
(`Spot.Fits`). Whatever is written at the spot, the text is read as the same surroundings filled
with another value (`Spot.Fits.read_text`).

The tree of the whole depends on the tree of the value at the spot only (`Spot.Fits.ofJson_congr`),
and the leaves around the spot are the same whatever stands there (`Spot.Fits.exists_leaves`).
-/

namespace Intake.Json

/-! ## Texts of values -/

section

variable {depth : Nat}

/-- More blanks may stand around an item. -/
theorem IsItem.blanks {α : Type} {item : Reader α} {text before after : List Char} {a : α}
    (h : IsItem item text a) (blank_before : Blank before) (blank_after : Blank after) :
    IsItem item (before ++ (text ++ after)) a := by
  cases h with
  | @intro inner_before used inner_after c a inner_blank visible not_end takes inner_blank_after =>
    have front : Blank (before ++ inner_before) :=
      List.forall_mem_append.mpr ⟨blank_before, inner_blank⟩
    have back : Blank (inner_after ++ after) :=
      List.forall_mem_append.mpr ⟨inner_blank_after, blank_after⟩
    have whole := IsItem.intro front visible not_end takes back
    simpa using whole

/-- The text of a value is taken off the front of a text, up to the blanks at its end. -/
theorem IsItem.takes_value {text : List Char} {v : Json}
    (h : IsItem (readValue false depth) text v) :
    ∃ used after, text = used ++ after ∧ Blank after ∧
      (readValue false depth).Takes Stops used v := by
  cases h with
  | @intro before used after c v blank_before visible not_end takes blank_after =>
    refine ⟨before ++ c :: used, after, by simp, blank_after, fun rest stops => ?_⟩
    rw [List.append_assoc, readValue_gap blank_before]
    exact takes rest stops

/-- The text of a value is read as the value. -/
theorem IsItem.readAll {text : List Char} {v : Json} (h : IsItem (readValue false depth) text v) :
    Json.readAll (readValue false depth) text = .ok v := by
  obtain ⟨used, after, rfl, blank, takes⟩ := h.takes_value
  exact takes.readAll blank

theorem IsKey.isMember {keyText text : List Char} {key : String} {v : Json}
    (is_key : IsKey keyText key) (is_item : IsItem (readValue false depth) text v) :
    IsMember (readValue false depth) (keyText ++ text) (key, v) := by
  obtain ⟨used, after, rfl, blank, takes⟩ := is_item.takes_value
  exact .intro is_key takes blank

/-- A number is the text of a value. -/
theorem WritesNumber.isItem {n : List Char} {l : Numeral.Literal} (h : WritesNumber n l) :
    IsItem (readValue false depth) n (.number l) := by
  have takes : (readValue false depth).Takes Stops n (.number l) := by
    intro rest stops
    have number_read := h.takes rest stops.ends
    obtain ⟨c, more, rfl, starts⟩ := h.exists_head
    rw [List.cons_append] at number_read ⊢
    cases depth <;>
    · rw [readValue, readWith_number starts, number_read]
      rfl
  obtain ⟨c, more, rfl, starts⟩ := h.exists_head
  have number_char := h.isNumberChar c List.mem_cons_self
  have not_end : c ≠ ']' := by
    rintro rfl
    cases number_char
  have is_item := IsItem.intro .nil (isSpace_of_isNumberChar number_char) not_end takes .nil
  rwa [List.nil_append, List.append_nil] at is_item

/-- A string in quotes is the text of a value. -/
theorem isItem_string {chars : List Char} {s : String}
    (reads : ∀ rest, readString (chars ++ '"' :: rest) = .ok (s, rest)) :
    IsItem (readValue false depth) ('"' :: (chars ++ ['"'])) (.string s) := by
  have takes : (readValue false depth).Takes Stops ('"' :: (chars ++ ['"'])) (.string s) := by
    intro rest _
    have string_read (list object : Reader Json) :
        readWith list object ('"' :: (chars ++ '"' :: rest)) = .ok (.string s, rest) := by
      show (readString (chars ++ '"' :: rest) >>= fun r => _) = _
      rw [reads]
      rfl
    rw [List.cons_append, List.append_assoc]
    cases depth <;> exact string_read _ _
  have is_item := IsItem.intro .nil (by decide) (by decide) takes .nil
  rwa [List.nil_append, List.append_nil] at is_item

/-- Characters between quotes. -/
def inQuotes (chars : List Char) : List Char := '"' :: (chars ++ ['"'])

theorem escapeChar_of_isNumberChar {c : Char} (h : isNumberChar c = true) :
    escapeChar c = [c] := by
  have digits : ∀ k < 10, escapeChar (Text.digitChar k) = [Text.digitChar k] := by decide
  simp only [isNumberChar, isFractionChar, Bool.or_eq_true, beq_iff_eq, decide_eq_true_eq,
    List.mem_cons, List.not_mem_nil, or_false] at h
  obtain (digit | rfl) | rfl | rfl | rfl | rfl := h
  · obtain ⟨k, k_lt, rfl, -⟩ := Text.exists_eq_digitChar digit
    exact digits k k_lt
  all_goals rfl

/-- A number in quotes is the string of its characters, which need no escapes. -/
theorem IsNumber.isItem_inQuotes {n : List Char} (h : IsNumber n) (depth : Nat) :
    IsItem (readValue false depth) (inQuotes n) (.string (String.ofList n)) := by
  have no_escapes : escape n = n := by
    have single : n.flatMap escapeChar = n.flatMap fun c => [c] :=
      List.flatMap_congr fun c mem => escapeChar_of_isNumberChar (h.isNumberChar c mem)
    rw [escape, single, List.flatMap_singleton']
  refine isItem_string fun rest => ?_
  have read := readString_escape (String.ofList n) rest
  rwa [String.toList_ofList, no_escapes] at read

/-- A list in brackets is the text of a value. -/
theorem isItem_list {text : List Char} {values : List Json}
    (h : IsItems (IsItem (readValue false depth)) text values) :
    IsItem (readValue false (depth + 1)) ('[' :: (text ++ [']'])) (.array values) := by
  have takes : (readValue false (depth + 1)).Takes Stops ('[' :: (text ++ [']']))
      (.array values) := by
    intro rest _
    rw [List.cons_append, List.append_assoc]
    show (readListBody (readValue false depth) (text ++ ']' :: rest) >>= fun r => _) = _
    rw [readListBody_of_isItems h]
    rfl
  have is_item := IsItem.intro .nil (by decide) (by decide) takes .nil
  rwa [List.nil_append, List.append_nil] at is_item

/-- Members in braces are the text of a value, unless their first key marks a number. -/
theorem isItem_object {text : List Char} {members : List (String × Json)}
    (h : IsItems (IsMember (readValue false depth)) text members)
    (unmarked : (members.map Prod.fst).head? ≠ some numberMarker) :
    IsItem (readValue false (depth + 1)) ('\x7b' :: (text ++ ['\x7d']))
      (.object (addMembers false [] members)) := by
  have takes : (readValue false (depth + 1)).Takes Stops ('\x7b' :: (text ++ ['\x7d']))
      (.object (addMembers false [] members)) := by
    intro rest _
    rw [List.cons_append, List.append_assoc]
    exact readObjectBody_of_isItems h (fun _ => unmarked) depth rest
  have is_item := IsItem.intro .nil (by decide) (by decide) takes .nil
  rwa [List.nil_append, List.append_nil] at is_item

end

/-! ## Spots -/

/-- A text and what it is read as. -/
structure Written (α : Type) where
  chars : List Char
  value : α
  deriving Repr

/-- A place in a text where a value stands, with all that is around it. -/
inductive Spot where
  /-- The whole text. -/
  | here
  /-- Between blanks. -/
  | blanks (before : List Char) (inner : Spot) (after : List Char)
  /-- In an item of a list. -/
  | item (before : List (Written Json)) (inner : Spot) (after : List (Written Json))
  /-- In a member of an object. -/
  | member (before : List (Written (String × Json))) (key : Written String) (inner : Spot)
      (after : List (Written (String × Json)))

namespace Spot

/-- The whole text, with a text written at the spot. -/
def text : Spot → List Char → List Char
  | here, w => w
  | blanks before inner after, w => before ++ (inner.text w ++ after)
  | item before inner after, w =>
    '[' :: ([','].intercalate
      (before.map Written.chars ++ inner.text w :: after.map Written.chars) ++ [']'])
  | member before key inner after, w =>
    '\x7b' :: ([','].intercalate
      (before.map Written.chars ++ (key.chars ++ inner.text w) :: after.map Written.chars) ++
      ['\x7d'])

/-- The whole value, with a value at the spot. -/
def fill : Spot → Json → Json
  | here, v => v
  | blanks _ inner _, v => inner.fill v
  | item before inner after, v =>
    .array (before.map Written.value ++ inner.fill v :: after.map Written.value)
  | member before key inner after, v =>
    .object (addMembers false []
      (before.map Written.value ++ (key.value, inner.fill v) :: after.map Written.value))

/-- What is around the spot is JSON, and the lists and objects around it are nested at most so deep.
In an object, the first key does not mark a number, and the key of the spot does not come up again
further on, where it would take another value. -/
inductive Fits : Nat → Spot → Prop
  | here (depth : Nat) : Fits depth here
  | blanks {depth : Nat} {before after : List Char} {inner : Spot} (blank_before : Blank before)
      (blank_after : Blank after) (fits : Fits depth inner) :
      Fits depth (blanks before inner after)
  | item {depth : Nat} {before after : List (Written Json)} {inner : Spot}
      (items_before : ∀ w ∈ before, IsItem (readValue false depth) w.chars w.value)
      (items_after : ∀ w ∈ after, IsItem (readValue false depth) w.chars w.value)
      (fits : Fits depth inner) : Fits (depth + 1) (item before inner after)
  | member {depth : Nat} {before after : List (Written (String × Json))} {key : Written String}
      {inner : Spot}
      (members_before : ∀ w ∈ before, IsMember (readValue false depth) w.chars w.value)
      (members_after : ∀ w ∈ after, IsMember (readValue false depth) w.chars w.value)
      (is_key : IsKey key.chars key.value)
      (unmarked : ((before.map fun w => w.value.1) ++ [key.value]).head? ≠ some numberMarker)
      (last : key.value ∉ after.map fun w => w.value.1)
      (fits : Fits depth inner) : Fits (depth + 1) (member before key inner after)

/-! ## Reading what stands at a spot -/

theorem forall₂_written {α : Type} {Item : List Char → α → Prop} {pieces : List (Written α)}
    (are : ∀ w ∈ pieces, Item w.chars w.value) :
    List.Forall₂ Item (pieces.map Written.chars) (pieces.map Written.value) := by
  simpa [List.forall₂_map_left_iff, List.forall₂_map_right_iff, List.forall₂_same] using are

/-- One more text among others. -/
theorem isItems_among {α : Type} {Item : List Char → α → Prop} {before after : List (Written α)}
    {chars : List Char} {a : α} (are_before : ∀ w ∈ before, Item w.chars w.value)
    (is_item : Item chars a) (are_after : ∀ w ∈ after, Item w.chars w.value) :
    IsItems Item ([','].intercalate (before.map Written.chars ++ chars :: after.map Written.chars))
      (before.map Written.value ++ a :: after.map Written.value) :=
  isItems_intercalate
    (List.rel_append (forall₂_written are_before) (.cons is_item (forall₂_written are_after)))

/-- **What stands at a spot is read there**, if it is the text of a value by itself. -/
theorem Fits.isItem {depth : Nat} {spot : Spot} (fits : spot.Fits depth) {w : List Char} {v : Json}
    (is_item : ∀ d, IsItem (readValue false d) w v) :
    IsItem (readValue false depth) (spot.text w) (spot.fill v) := by
  induction fits with
  | here depth => exact is_item depth
  | blanks blank_before blank_after _ ih => exact ih.blanks blank_before blank_after
  | item items_before items_after _ ih => exact isItem_list (isItems_among items_before ih items_after)
  | @member depth before after key inner members_before members_after is_key unmarked last _ ih =>
    refine isItem_object (isItems_among members_before (is_key.isMember ih) members_after) ?_
    cases before with
    | nil => exact unmarked
    | cons first before => exact unmarked

/-- **A text is read as what is around a spot, filled with the value at the spot.** -/
theorem Fits.read_text {spot : Spot} (fits : spot.Fits maxDepth) {w : List Char} {v : Json}
    (is_item : ∀ d, IsItem (readValue false d) w v) :
    Json.read (String.ofList (spot.text w)) = .ok (spot.fill v) := by
  rw [Json.read, String.toList_ofList]
  exact (fits.isItem is_item).readAll

/-! ## The tree around a spot -/

/-- Members that are put among others. -/
theorem putEntry_append (key : String) (v : Json) (front back : List (String × Json)) :
    putEntry key v (front ++ back) =
      if key ∈ front.map Prod.fst then putEntry key v front ++ back
      else front ++ putEntry key v back := by
  induction front with
  | nil => rfl
  | cons member front ih =>
    obtain ⟨k, u⟩ := member
    by_cases same : k = key
    · simp [putEntry, same]
    · have other : ¬ key = k := fun e => same e.symm
      rw [List.cons_append, putEntry, if_neg same, ih, putEntry, if_neg same]
      simp only [List.map_cons, List.mem_cons, other, false_or]
      split <;> rfl

/-- A member that is put stands among the others, which do not depend on its value. -/
theorem exists_putEntry (key : String) (members : List (String × Json)) :
    ∃ front back, ∀ v, putEntry key v members = front ++ (key, v) :: back := by
  induction members with
  | nil => exact ⟨[], [], fun v => rfl⟩
  | cons member members ih =>
    obtain ⟨k, u⟩ := member
    by_cases same : k = key
    · subst same
      exact ⟨[], members, fun v => if_pos rfl⟩
    · obtain ⟨front, back, put⟩ := ih
      refine ⟨(k, u) :: front, back, fun v => ?_⟩
      rw [putEntry, if_neg same, put, List.cons_append]

/-- A member stays where it is while others are added. -/
theorem exists_addMembers_around {key : String} (front back : List (String × Json))
    {others : List (String × Json)} (last : key ∉ others.map Prod.fst) :
    ∃ front' back', ∀ v, addMembers false (front ++ (key, v) :: back) others =
      front' ++ (key, v) :: back' := by
  induction others generalizing front back with
  | nil => exact ⟨front, back, fun v => rfl⟩
  | cons other others ih =>
    obtain ⟨k, u⟩ := other
    rw [List.map_cons, List.mem_cons, not_or] at last
    have put (v : Json) : addMember false k u (front ++ (key, v) :: back) =
        if k ∈ front.map Prod.fst then putEntry k u front ++ (key, v) :: back
        else front ++ (key, v) :: putEntry k u back := by
      have stays : putEntry k u ((key, v) :: back) = (key, v) :: putEntry k u back :=
        if_neg last.1
      rw [← stays]
      exact putEntry_append k u front _
    -- A key that is known in front takes its new value there; any other stays behind the member.
    by_cases known : k ∈ front.map Prod.fst
    · obtain ⟨front', back', around⟩ := ih (putEntry k u front) back last.2
      refine ⟨front', back', fun v => ?_⟩
      rw [addMembers_cons, put, if_pos known, around]
    · obtain ⟨front', back', around⟩ := ih front (putEntry k u back) last.2
      refine ⟨front', back', fun v => ?_⟩
      rw [addMembers_cons, put, if_neg known, around]

/-- **The members around a spot** do not depend on the value there. -/
theorem exists_members_around {key : String} (before : List (String × Json))
    {after : List (String × Json)} (last : key ∉ after.map Prod.fst) :
    ∃ front back, ∀ v, addMembers false [] (before ++ (key, v) :: after) =
      front ++ (key, v) :: back := by
  obtain ⟨front, back, put⟩ := exists_putEntry key (addMembers false [] before)
  obtain ⟨front', back', around⟩ := exists_addMembers_around front back last
  refine ⟨front', back', fun v => ?_⟩
  rw [addMembers_append, addMembers_cons, ← around, ← put]
  rfl

/-- **An object around a spot** has the same other members, whatever stands there. -/
theorem exists_fill_member (before after : List (Written (String × Json))) {key : Written String}
    (inner : Spot) (last : key.value ∉ after.map fun w => w.value.1) :
    ∃ front back, ∀ v,
      (member before key inner after).fill v = .object (front ++ (key.value, inner.fill v) :: back) := by
  have last_value : key.value ∉ (after.map Written.value).map Prod.fst := by
    rwa [List.map_map]
  obtain ⟨front, back, around⟩ := exists_members_around (before.map Written.value) last_value
  exact ⟨front, back, fun v => congrArg Json.object (around (inner.fill v))⟩

/-- The leaves of some values, one value after the other. -/
def leavesOf (values : List Json) : List Leaf := values.flatMap fun v => (Tree.ofJson v).leaves

theorem leaves_array (front back : List Json) (v : Json) :
    (Tree.ofJson (.array (front ++ v :: back))).leaves =
      leavesOf front ++ (Tree.ofJson v).leaves ++ leavesOf back := by
  simp [Tree.ofJson, Tree.leaves, Tree.ofItems_eq_map, Tree.itemLeaves_eq_flatMap,
    List.flatMap_map, leavesOf]

theorem leaves_object (front back : List (String × Json)) (key : String) (v : Json) :
    (Tree.ofJson (.object (front ++ (key, v) :: back))).leaves =
      leavesOf (front.map Prod.snd) ++ (Tree.ofJson v).leaves ++
        leavesOf (back.map Prod.snd) := by
  simp [Tree.ofJson, Tree.leaves, Tree.ofMembers_eq_map, Tree.memberLeaves_eq_flatMap,
    List.flatMap_map, leavesOf]

/-- **The leaves around a spot do not depend on what stands there.** -/
theorem Fits.exists_leaves {depth : Nat} {spot : Spot} (fits : spot.Fits depth) :
    ∃ before after, ∀ v, (Tree.ofJson (spot.fill v)).leaves =
      before ++ (Tree.ofJson v).leaves ++ after := by
  induction fits with
  | here depth => exact ⟨[], [], fun v => by simp [fill]⟩
  | blanks _ _ _ ih => exact ih
  | @item depth before after inner _ _ _ ih =>
    obtain ⟨inner_before, inner_after, leaves_eq⟩ := ih
    refine ⟨leavesOf (before.map Written.value) ++ inner_before,
      inner_after ++ leavesOf (after.map Written.value), fun v => ?_⟩
    rw [fill, leaves_array, leaves_eq]
    simp only [List.append_assoc]
  | @member depth before after key inner _ _ _ _ last _ ih =>
    obtain ⟨inner_before, inner_after, leaves_eq⟩ := ih
    obtain ⟨front, back, around⟩ := exists_fill_member before after inner last
    refine ⟨leavesOf (front.map Prod.snd) ++ inner_before,
      inner_after ++ leavesOf (back.map Prod.snd), fun v => ?_⟩
    rw [around, leaves_object, leaves_eq]
    simp only [List.append_assoc]

/-- **The tree of the whole depends on the tree of the value at the spot only.** -/
theorem Fits.ofJson_congr {depth : Nat} {spot : Spot} (fits : spot.Fits depth) {v v' : Json}
    (same : Tree.ofJson v = Tree.ofJson v') :
    Tree.ofJson (spot.fill v) = Tree.ofJson (spot.fill v') := by
  induction fits with
  | here depth => exact same
  | blanks _ _ _ ih => exact ih
  | item _ _ _ ih => simp [fill, Tree.ofJson, Tree.ofItems_eq_map, ih]
  | @member depth before after key inner _ _ _ _ last _ ih =>
    obtain ⟨front, back, around⟩ := exists_fill_member before after inner last
    simp [around, Tree.ofJson, Tree.ofMembers_eq_map, ih]

end Spot

end Intake.Json
