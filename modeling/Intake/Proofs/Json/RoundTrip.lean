import Intake.Json.Printer
import Intake.Proofs.Json.Members

/-!
# Reading what was printed

The compact text of a value is read back as that value, whatever follows it (`readValue_chars`).
Strings come back for every text: a character is written as itself or as an escape, and the escape
is read as the character (`escapeChar_cases`).

`ReadsBack` says which values the statement is about: those without numbers that are not nested too
deep. A reader that puts members together needs keys that do not repeat, and it takes an object
whose first key is the number marker for a number; a reader that keeps objects as they are written
needs neither.
-/

namespace Intake.Json

open Intake.Text

/-! ## Strings -/

/-- The four digits of a character below the space give its number back. -/
theorem readHex4_control {n : Nat} (h : n < 32) (rest : List Char) :
    readHex4 ('0' :: '0' :: hexDigit (n / 16) :: hexDigit (n % 16) :: rest) = .ok (n, rest) := by
  have value_eq : ∀ k < 32,
      hexValue4? '0' '0' (hexDigit (k / 16)) (hexDigit (k % 16)) = some k := by
    decide
  have enough : ∀ k < 32, 4 ≤ byteSize ['0', '0', hexDigit (k / 16), hexDigit (k % 16)] := by
    decide
  have long : ¬ byteSize (List.take 4
      ('0' :: '0' :: hexDigit (n / 16) :: hexDigit (n % 16) :: rest)) < 4 :=
    Nat.not_lt.mpr (enough n h)
  rw [readHex4, if_neg long]
  simp only [value_eq n h]

/-- **A character is written as itself or as an escape**, and the escape is read as the
character. -/
theorem escapeChar_cases (c : Char) :
    (escapeChar c = [c] ∧ c ≠ '"' ∧ c ≠ '\\' ∧ ¬ c.toNat < 32) ∨
      ∃ body, escapeChar c = '\\' :: body ∧ ∀ rest, readEscape (body ++ rest) = .ok (c, rest) := by
  have same {n : Nat} (h : c.toNat = n) : Char.ofNat n = c := by rw [← h, Char.ofNat_toNat]
  unfold escapeChar
  split
  · next h => exact .inr ⟨['"'], rfl, fun rest => by rw [h]; rfl⟩
  split
  · next h => exact .inr ⟨['\\'], rfl, fun rest => by rw [h]; rfl⟩
  split
  · next h => exact .inr ⟨['b'], rfl, fun rest => by rw [← same h]; rfl⟩
  split
  · next h => exact .inr ⟨['t'], rfl, fun rest => by rw [← same h]; rfl⟩
  split
  · next h => exact .inr ⟨['n'], rfl, fun rest => by rw [← same h]; rfl⟩
  split
  · next h => exact .inr ⟨['f'], rfl, fun rest => by rw [← same h]; rfl⟩
  split
  · next h => exact .inr ⟨['r'], rfl, fun rest => by rw [← same h]; rfl⟩
  split
  · next h =>
    -- What is left below the space is written by its number, which is no half of a pair.
    refine .inr ⟨_, rfl, fun rest => ?_⟩
    have not_trailing : isTrailing c.toNat = false := by
      simp only [isTrailing, Bool.and_eq_false_iff, decide_eq_false_iff_not]
      omega
    have not_leading : isLeading c.toNat = false := by
      simp only [isLeading, Bool.and_eq_false_iff, decide_eq_false_iff_not]
      omega
    show readCodeEscape ('0' :: '0' :: hexDigit (c.toNat / 16) :: hexDigit (c.toNat % 16) :: rest) =
      .ok (c, rest)
    rw [readCodeEscape, readHex4_control h]
    show (if isTrailing c.toNat then _ else if isLeading c.toNat then _ else _) = _
    rw [not_trailing, not_leading, same rfl]
    rfl
  · next not_quote not_backslash _ _ _ _ _ visible =>
    exact .inl ⟨rfl, not_quote, not_backslash, visible⟩

/-- **What was escaped is read back**, up to the closing quote. -/
theorem readChars_escape {cs : List Char} {fuel : Nat} (enough : cs.length < fuel)
    (rest : List Char) : readChars fuel (escape cs ++ '"' :: rest) = .ok (cs, rest) := by
  induction cs generalizing fuel with
  | nil =>
    obtain ⟨fuel, rfl⟩ := Nat.exists_eq_add_one_of_ne_zero (Nat.ne_zero_of_lt enough)
    rfl
  | cons c cs ih =>
    obtain ⟨fuel, rfl⟩ := Nat.exists_eq_add_one_of_ne_zero (Nat.ne_zero_of_lt enough)
    have tail_read := ih (Nat.lt_of_succ_lt_succ enough)
    rw [escape, List.flatMap_cons, ← escape, List.append_assoc]
    rcases escapeChar_cases c with
      ⟨plain, not_quote, not_backslash, visible⟩ | ⟨body, escaped, read⟩
    · rw [plain, List.singleton_append, readChars, if_neg not_quote, if_neg not_backslash,
        if_neg visible, tail_read]
      rfl
    · rw [escaped, List.cons_append, readChars, if_neg (by decide), if_pos rfl, read]
      show (readChars fuel (escape cs ++ '"' :: rest) >>= fun r => _) = _
      rw [tail_read]
      rfl

theorem length_le_length_escape (cs : List Char) : cs.length ≤ (escape cs).length := by
  induction cs with
  | nil => exact Nat.le_refl 0
  | cons c cs ih =>
    have some_chars : 1 ≤ (escapeChar c).length := by
      rcases escapeChar_cases c with ⟨plain, -⟩ | ⟨body, escaped, -⟩
      · rw [plain]
        exact Nat.le_refl 1
      · rw [escaped]
        exact Nat.le_add_left 1 _
    rw [escape, List.flatMap_cons, ← escape, List.length_append, List.length_cons]
    omega

/-- **A string is read back** from its text after the opening quote. -/
theorem readString_escape (s : String) (rest : List Char) :
    readString (escape s.toList ++ '"' :: rest) = .ok (s, rest) := by
  have enough : s.toList.length < (escape s.toList ++ '"' :: rest).length + 1 := by
    have := length_le_length_escape s.toList
    rw [List.length_append]
    omega
  rw [readString, readChars_escape enough]
  show Except.ok (String.ofList s.toList, rest) = _
  rw [String.ofList_toList]

/-! ## Values that read back -/

/-- The values that a reader of so much depth reads back from their text. -/
inductive ReadsBack (asWritten : Bool) : Nat → Json → Prop
  | null (depth : Nat) : ReadsBack asWritten depth .null
  | bool (depth : Nat) (value : Bool) : ReadsBack asWritten depth (.bool value)
  | string (depth : Nat) (value : String) : ReadsBack asWritten depth (.string value)
  | array {depth : Nat} {items : List Json}
      (inner : ∀ item ∈ items, ReadsBack asWritten depth item) :
      ReadsBack asWritten (depth + 1) (.array items)
  | object {depth : Nat} {members : List (String × Json)}
      (distinct : asWritten = false → (members.map Prod.fst).Nodup)
      (unmarked : asWritten = false → (members.map Prod.fst).head? ≠ some numberMarker)
      (inner : ∀ member ∈ members, ReadsBack asWritten depth member.2) :
      ReadsBack asWritten (depth + 1) (.object members)

/-- An object of one member is read back if its value is. -/
theorem ReadsBack.singleton {asWritten : Bool} {depth : Nat} {key : String} {value : Json}
    (unmarked : key ≠ numberMarker) (h : ReadsBack asWritten depth value) :
    ReadsBack asWritten (depth + 1) (.object [(key, value)]) := by
  refine .object (fun _ => by simp)
    (fun _ first => unmarked (Option.some.inj first)) fun member mem => ?_
  rwa [List.mem_singleton.mp mem]

/-- The text of a value begins with a character that is no blank and ends no list. -/
theorem ReadsBack.chars_eq_cons {asWritten : Bool} {depth : Nat} {value : Json}
    (h : ReadsBack asWritten depth value) :
    ∃ c rest, value.chars = c :: rest ∧ isSpace c = false ∧ c ≠ ']' := by
  cases h with
  | null => exact ⟨'n', _, rfl, by decide, by decide⟩
  | bool _ value =>
    cases value with
    | false => exact ⟨'f', _, rfl, by decide, by decide⟩
    | true => exact ⟨'t', _, rfl, by decide, by decide⟩
  | string => exact ⟨'"', _, rfl, by decide, by decide⟩
  | array => exact ⟨'[', _, rfl, by decide, by decide⟩
  | object => exact ⟨'\x7b', _, rfl, by decide, by decide⟩

/-! ## Items -/

/-- Items that follow others, each after its comma. -/
def itemsTail (items : List Json) : List Char := items.flatMap fun item => ',' :: item.chars

theorem itemsChars_cons (item : Json) (rest : List Json) :
    itemsChars (item :: rest) = item.chars ++ itemsTail rest := by
  induction rest generalizing item with
  | nil => simp [itemsChars, itemsTail]
  | cons second rest ih =>
    rw [itemsChars, ih second]
    · rfl
    · simp

section

variable {asWritten : Bool} {depth : Nat} {reader : Reader Json}

theorem ReadsBack.isItem {item : Json} (h : ReadsBack asWritten depth item)
    (read : ∀ rest, reader (item.chars ++ rest) = .ok (item, rest)) :
    IsItem reader item.chars item := by
  obtain ⟨c, used, chars_eq, visible, not_end⟩ := h.chars_eq_cons
  rw [chars_eq] at read ⊢
  have is_item := IsItem.intro .nil visible not_end (fun rest _ => read rest) .nil
  rwa [List.nil_append, List.append_nil] at is_item

theorem isTail_itemsTail {items : List Json}
    (inner : ∀ item ∈ items, ReadsBack asWritten depth item)
    (read : ∀ item ∈ items, ∀ rest, reader (item.chars ++ rest) = .ok (item, rest)) :
    IsTail (IsItem reader) (itemsTail items) items := by
  induction items with
  | nil => exact .nil
  | cons item items ih =>
    obtain ⟨item_inner, rest_inner⟩ := List.forall_mem_cons.mp inner
    obtain ⟨item_read, rest_read⟩ := List.forall_mem_cons.mp read
    exact .cons (item_inner.isItem item_read) (ih rest_inner rest_read)

/-- **A list is read back** from its text after the opening bracket. -/
theorem readListBody_itemsChars {items : List Json}
    (inner : ∀ item ∈ items, ReadsBack asWritten depth item)
    (read : ∀ item ∈ items, ∀ rest, reader (item.chars ++ rest) = .ok (item, rest))
    (rest : List Char) :
    readListBody reader (itemsChars items ++ ']' :: rest) = .ok (items, rest) := by
  refine readListBody_of_isItems ?_ rest
  cases items with
  | nil => exact .nil .nil
  | cons item items =>
    obtain ⟨item_inner, rest_inner⟩ := List.forall_mem_cons.mp inner
    obtain ⟨item_read, rest_read⟩ := List.forall_mem_cons.mp read
    rw [itemsChars_cons]
    exact .cons (item_inner.isItem item_read) (isTail_itemsTail rest_inner rest_read)

/-! ## Members -/

/-- Members that follow others, each after its comma. -/
def membersTail (members : List (String × Json)) : List Char :=
  members.flatMap fun member => ',' :: (keyChars member.1 ++ member.2.chars)

theorem membersTail_cons (key : String) (value : Json) (rest : List (String × Json)) :
    membersTail ((key, value) :: rest) =
      ',' :: (keyChars key ++ value.chars ++ membersTail rest) := by
  rw [membersTail, List.flatMap_cons, ← membersTail, List.cons_append]

theorem membersChars_cons (member : String × Json) (rest : List (String × Json)) :
    membersChars (member :: rest) = keyChars member.1 ++ member.2.chars ++ membersTail rest := by
  induction rest generalizing member with
  | nil => simp [membersChars, membersTail]
  | cons second rest ih =>
    obtain ⟨key, value⟩ := member
    obtain ⟨second_key, second_value⟩ := second
    rw [membersChars, ih (second_key, second_value), membersTail_cons]
    simp

theorem length_le_length_membersTail (members : List (String × Json)) :
    members.length ≤ (membersTail members).length := by
  induction members with
  | nil => exact Nat.le_refl 0
  | cons member rest ih =>
    rw [membersTail, List.flatMap_cons, ← membersTail, List.length_append, List.length_cons,
      List.length_cons]
    omega

/-- There are more characters in an object than members after its first one. -/
theorem length_lt_length_membersChars (member : String × Json) (members : List (String × Json))
    (rest : List Char) :
    members.length < (membersChars (member :: members) ++ '\x7d' :: rest).length := by
  have := length_le_length_membersTail members
  simp only [membersChars_cons, List.length_append, List.length_cons]
  omega

theorem array_chars_append (items : List Json) (rest : List Char) :
    (Json.array items).chars ++ rest = '[' :: (itemsChars items ++ ']' :: rest) := by
  simp [chars]

theorem object_chars_append (members : List (String × Json)) (rest : List Char) :
    (Json.object members).chars ++ rest =
      '\x7b' :: (membersChars members ++ '\x7d' :: rest) := by
  simp [chars]

/-- A key is read up to its colon. -/
theorem readString_keyChars (key : String) (rest : List Char) :
    ∃ content, keyChars key ++ rest = '"' :: content ∧
      readString content = .ok (key, ':' :: rest) := by
  refine ⟨escape key.toList ++ '"' :: ':' :: rest, ?_, readString_escape key _⟩
  simp [keyChars, stringChars]

theorem nextKey_first (key : String) (rest : List Char) :
    nextKey true (keyChars key ++ rest) = .ok (some key, ':' :: rest) := by
  obtain ⟨content, chars_eq, read_eq⟩ := readString_keyChars key rest
  rw [chars_eq, nextKey, skipSpace_cons (by decide)]
  show (readString content >>= fun r => _) = _
  rw [read_eq]
  rfl

theorem nextKey_later (key : String) (rest : List Char) :
    nextKey false (',' :: (keyChars key ++ rest)) = .ok (some key, ':' :: rest) := by
  obtain ⟨content, chars_eq, read_eq⟩ := readString_keyChars key rest
  rw [chars_eq, nextKey, skipSpace_cons (by decide)]
  show (readString content >>= fun r => _) = _
  rw [read_eq]
  rfl

/-- What is written for a member is the text of one. -/
theorem isMember_chars (key : String) {v : Json}
    (read : ∀ rest, reader (v.chars ++ rest) = .ok (v, rest)) :
    IsMember reader (keyChars key ++ v.chars) (key, v) := by
  have is_key : IsKey (keyChars key) key := by
    have plain : IsKey ([] ++ '"' :: (escape key.toList ++ '"' :: ([] ++ [':']))) key :=
      .intro .nil (readString_escape key) .nil
    simpa [keyChars, stringChars] using plain
  have is_member := IsMember.intro is_key (fun rest _ => read rest) .nil
  rwa [List.append_nil] at is_member

/-- What is written for the members of an object is their text. -/
theorem isItems_membersChars {members : List (String × Json)}
    (read : ∀ member ∈ members, ∀ rest, reader (member.2.chars ++ rest) = .ok (member.2, rest)) :
    IsItems (IsMember reader) (membersChars members) members := by
  have tail {members : List (String × Json)}
      (read : ∀ member ∈ members, ∀ rest, reader (member.2.chars ++ rest) = .ok (member.2, rest)) :
      IsTail (IsMember reader) (membersTail members) members := by
    induction members with
    | nil => exact .nil
    | cons member members ih =>
      obtain ⟨member_read, rest_read⟩ := List.forall_mem_cons.mp read
      rw [membersTail_cons]
      exact .cons (isMember_chars member.1 member_read) (ih rest_read)
  cases members with
  | nil => exact .nil .nil
  | cons member members =>
    obtain ⟨member_read, rest_read⟩ := List.forall_mem_cons.mp read
    rw [membersChars_cons]
    exact .cons (isMember_chars member.1 member_read) (tail rest_read)

/-- **An object is read back** from its text after the opening brace. -/
theorem readObjectBody_membersChars {members : List (String × Json)}
    (distinct : asWritten = false → (members.map Prod.fst).Nodup)
    (unmarked : asWritten = false → (members.map Prod.fst).head? ≠ some numberMarker)
    (read : ∀ member ∈ members, ∀ rest, reader (member.2.chars ++ rest) = .ok (member.2, rest))
    (rest : List Char) :
    readObjectBody asWritten depth reader (membersChars members ++ '\x7d' :: rest) =
      .ok (.object members, rest) := by
  rw [readObjectBody_of_isItems (isItems_membersChars read) unmarked,
    addMembers_of_distinct distinct, List.nil_append]

end

/-! ## Values -/

/-- **Values are read back from their text**, whatever follows it. -/
theorem readValue_chars {asWritten : Bool} {depth : Nat} {value : Json}
    (h : ReadsBack asWritten depth value) (rest : List Char) :
    readValue asWritten depth (value.chars ++ rest) = .ok (value, rest) := by
  induction h generalizing rest with
  | null depth => cases depth <;> rfl
  | bool depth value => cases depth <;> cases value <;> rfl
  | string depth value =>
    have body : (Json.string value).chars ++ rest =
        '"' :: (escape value.toList ++ '"' :: rest) := by
      simp [chars, stringChars]
    have read_eq (list object : Reader Json) :
        readWith list object ('"' :: (escape value.toList ++ '"' :: rest)) =
          .ok (.string value, rest) := by
      show (readString (escape value.toList ++ '"' :: rest) >>= fun r => _) = _
      rw [readString_escape]
      rfl
    rw [body]
    cases depth <;> exact read_eq _ _
  | @array depth items inner read =>
    rw [array_chars_append]
    show (readListBody (readValue asWritten depth) (itemsChars items ++ ']' :: rest) >>=
      fun r => _) = _
    rw [readListBody_itemsChars inner read]
    rfl
  | @object depth members distinct unmarked inner read =>
    rw [object_chars_append]
    exact readObjectBody_membersChars distinct unmarked read rest

theorem readAll_text {asWritten : Bool} {depth : Nat} {value : Json}
    (h : ReadsBack asWritten depth value) :
    readAll (readValue asWritten depth) value.text.toList = .ok value := by
  have whole := readValue_chars h []
  rw [List.append_nil] at whole
  rw [text, String.toList_ofList, readAll, whole]
  rfl

/-- **A text that was printed is read back as its value.** -/
theorem read_text {value : Json} (h : ReadsBack false maxDepth value) :
    read value.text = .ok value := readAll_text h

/-- Reads a JSON text whose objects stay as they are written: keys may repeat, and no key has a
meaning of its own. -/
def readAsWritten (text : String) : Except Refusal Json :=
  readAll (readValue true maxDepth) text.toList

theorem readAsWritten_text {value : Json} (h : ReadsBack true maxDepth value) :
    readAsWritten value.text = .ok value := readAll_text h

end Intake.Json
