import Intake.Proofs.Json.LocalMembers
import Intake.Proofs.Json.Numbers

/-!
# A value does not depend on what follows it

A value that was read off the front of a text is read off every text that begins with the same
characters, as long as what follows can follow a value, and by every reader that may go as deep as
the characters nest (`readValue_local`). So a text of its own is read as the same value when it is
an item of a list (`isItem_of_readAll`), and a blank at its end may be left out
(`readAll_of_concat`).
-/

namespace Intake.Json

/-! ## Values -/

section

variable {list object : Reader Json}

theorem readWith_gap {gap : List Char} (blank : Blank gap) (s : List Char) :
    readWith list object (gap ++ s) = readWith list object s := by
  rw [readWith, readWith, skipSpace_append blank]

theorem readValue_gap {asWritten : Bool} {depth : Nat} {gap : List Char} (blank : Blank gap)
    (s : List Char) : readValue asWritten depth (gap ++ s) = readValue asWritten depth s := by
  cases depth <;> exact readWith_gap blank s

theorem readWith_number {c : Char} (starts : c = '-' ∨ Text.isAsciiDigit c = true) (s : List Char) :
    readWith list object (c :: s) =
      readNumber (c :: s) >>= fun r => return (.number r.1, r.2) := by
  have visible : isSpace c = false := by
    rcases starts with rfl | digit
    · rfl
    · exact isSpace_of_isNumberChar (isNumberChar_of_isAsciiDigit digit)
  rw [readWith, skipSpace_cons visible]
  split
  case h_8 c' t _ _ _ _ _ _ same =>
    obtain ⟨rfl, rfl⟩ := List.cons.inj same
    rw [if_pos starts]
  case h_1 same => cases same
  all_goals
    next same =>
    cases same
    exact absurd starts (by decide)

/-- A word that stands for a value. -/
theorem word_local {word s rest : List Char} {v v' : Json}
    (h : (do return (v, ← readWord word s) : Except Fault (Json × List Char)) = .ok (v', rest)) :
    v' = v ∧ s = word ++ rest := by
  obtain ⟨s', word_eq, h⟩ := bind_eq_ok.mp h
  cases h
  exact ⟨rfl, readWord_local word_eq⟩

/-- **A scalar is read off again by every reader**; what else is read is a list or an object. -/
theorem readWith_local {s rest : List Char} {v : Json}
    (h : readWith list object s = .ok (v, rest)) :
    (∃ used, skipSpace s = used ++ rest ∧ EndsVisibly used ∧ Nests 0 used ∧
        ∀ list object : Reader Json, (readWith list object).Takes Stops used v) ∨
      (∃ t, skipSpace s = '[' :: t ∧ list ('[' :: t) = .ok (v, rest)) ∨
      ∃ t, skipSpace s = '\x7b' :: t ∧ object ('\x7b' :: t) = .ok (v, rest) := by
  have word_takes {c : Char} {word : List Char} {v : Json}
      (reads : ∀ (list object : Reader Json) s,
        readWith list object (c :: s) = do return (v, ← readWord word s))
      (list object : Reader Json) : (readWith list object).Takes Stops (c :: word) v := by
    intro rest _
    rw [List.cons_append, reads, readWord_append]
    rfl
  unfold readWith at h
  split at h <;> rename_i skip_eq <;> rw [skip_eq]
  case h_1 => cases h
  case h_2 =>
    obtain ⟨rfl, rfl⟩ := word_local h
    exact .inl ⟨"null".toList, rfl, ⟨['n', 'u', 'l'], 'l', rfl, rfl⟩,
      .plain (List.all_eq_true.mp rfl), word_takes fun list object s => rfl⟩
  case h_3 =>
    obtain ⟨rfl, rfl⟩ := word_local h
    exact .inl ⟨"true".toList, rfl, ⟨['t', 'r', 'u'], 'e', rfl, rfl⟩,
      .plain (List.all_eq_true.mp rfl), word_takes fun list object s => rfl⟩
  case h_4 =>
    obtain ⟨rfl, rfl⟩ := word_local h
    exact .inl ⟨"false".toList, rfl, ⟨['f', 'a', 'l', 's'], 'e', rfl, rfl⟩,
      .plain (List.all_eq_true.mp rfl), word_takes fun list object s => rfl⟩
  case h_5 =>
    obtain ⟨⟨text, s₁⟩, string_eq, read_eq⟩ := bind_eq_ok.mp h
    cases read_eq
    obtain ⟨used, rfl, quiet, again⟩ := readString_local string_eq
    refine .inl ⟨'"' :: (used ++ ['"']), by simp, ⟨'"' :: used, '"', by simp, rfl⟩,
      .string quiet, fun list object rest _ => ?_⟩
    rw [List.cons_append, List.append_assoc]
    show (readString (used ++ '"' :: rest) >>= fun r => _) = _
    rw [again]
    rfl
  case h_6 => exact .inr (.inl ⟨_, rfl, h⟩)
  case h_7 => exact .inr (.inr ⟨_, rfl, h⟩)
  case h_8 =>
    split at h
    · next starts =>
      obtain ⟨⟨n, s₁⟩, number_eq, read_eq⟩ := bind_eq_ok.mp h
      cases read_eq
      obtain ⟨used, text_eq, writes⟩ := exists_writesNumber number_eq
      have number_chars := writes.isNumberChar
      refine .inl ⟨used, text_eq, endsVisibly_of_isNumberChar writes.ne_nil number_chars,
        .plain fun d mem => isPlain_of_isNumberChar (number_chars d mem),
        fun list object rest stops => ?_⟩
      have number_again := writes.takes rest stops.ends
      obtain ⟨d, used, rfl⟩ := List.exists_cons_of_ne_nil writes.ne_nil
      obtain ⟨rfl, -⟩ := List.cons.inj text_eq
      rw [List.cons_append, readWith_number starts, ← List.cons_append, number_again]
      rfl
    · cases h

end

/-- The blanks before a value may be left aside. -/
theorem localTo_of_skipSpace {asWritten : Bool} {reader : Reader Json} {most : Nat}
    (inner : ∀ s v rest, reader s = .ok (v, rest) →
      ∃ used n, skipSpace s = used ++ rest ∧ EndsVisibly used ∧ n ≤ most ∧ Nests n used ∧
        ∀ d, n ≤ d → (readValue asWritten d).Takes Stops used v) :
    LocalTo reader most (readValue asWritten) := by
  intro s v rest h
  obtain ⟨used, n, text_eq, ends, le_most, nests, takes⟩ := inner s v rest h
  refine ⟨s.takeWhile isSpace ++ used, _, ?_, ends.append _, by omega,
    (blank_takeWhile s).nests.append nests, fun d le rest stops => ?_⟩
  · rw [List.append_assoc, ← text_eq, takeWhile_append_skipSpace]
  · rw [List.append_assoc, readValue_gap (blank_takeWhile s)]
    exact takes d (by omega) rest stops

/-- **A value is read off again from its characters**, by every reader that may go as deep as they
nest. -/
theorem readValue_local (asWritten : Bool) (depth : Nat) :
    LocalTo (readValue asWritten depth) depth (readValue asWritten) := by
  induction depth with
  | zero =>
    refine localTo_of_skipSpace fun s v rest h => ?_
    obtain ⟨used, text_eq, ends, nests, takes⟩ | ⟨t, -, h⟩ | ⟨t, -, h⟩ := readWith_local h
    · exact ⟨used, 0, text_eq, ends, Nat.le_refl 0, nests,
        fun d _ => by cases d <;> exact takes _ _⟩
    · cases h
    · cases h
  | succ depth ih =>
    refine localTo_of_skipSpace fun s v rest h => ?_
    obtain ⟨used, text_eq, ends, nests, takes⟩ | ⟨t, text_eq, h⟩ | ⟨t, text_eq, h⟩ :=
      readWith_local h
    · exact ⟨used, 0, text_eq, ends, Nat.zero_le _, nests,
        fun d _ => by cases d <;> exact takes _ _⟩
    · obtain ⟨⟨items, s₁⟩, list_eq, read_eq⟩ := bind_eq_ok.mp h
      cases read_eq
      obtain ⟨text, n, rfl, le_most, nests, is_items⟩ := readListBody_local ih list_eq
      refine ⟨'[' :: (text ++ [']']), n + 1, by simp [text_eq], ⟨'[' :: text, ']', rfl, rfl⟩,
        Nat.succ_le_succ le_most, nests.bracket rfl rfl, fun d le rest _ => ?_⟩
      obtain ⟨d, rfl⟩ := Nat.exists_eq_add_one_of_ne_zero (by omega : d ≠ 0)
      rw [List.cons_append, List.append_assoc]
      show (readListBody (readValue asWritten d) (text ++ ']' :: rest) >>= fun r => _) = _
      rw [readListBody_of_isItems (is_items d (by omega))]
      rfl
    · obtain ⟨used, n, rfl, le_most, nests, again⟩ := readObjectBody_local ih h
      refine ⟨'\x7b' :: (used ++ ['\x7d']), n + 1, by simp [text_eq],
        ⟨'\x7b' :: used, '\x7d', rfl, rfl⟩, Nat.succ_le_succ le_most, nests.bracket rfl rfl,
        fun d le rest _ => ?_⟩
      obtain ⟨d, rfl⟩ := Nat.exists_eq_add_one_of_ne_zero (by omega : d ≠ 0)
      rw [List.cons_append, List.append_assoc]
      exact again d (by omega) d rest

/-! ## Whole texts -/

/-- A value and the blanks after it are a text of their own. -/
theorem Reader.Takes.readAll {α : Type} {reader : Reader α} {used after : List Char} {a : α}
    (takes : reader.Takes Stops used a) (blank : Blank after) :
    Json.readAll reader (used ++ after) = .ok a := by
  have stops : Stops after := by simpa using blank.stops Stops.nil
  have rest_blank : skipSpace after = [] := by
    rw [← List.append_nil after, skipSpace_append blank]
    rfl
  rw [Json.readAll, takes after stops]
  simp only [rest_blank]

/-- What a text of its own consists of: the value, perhaps after blanks, and more blanks. -/
theorem readAll_local {asWritten : Bool} {depth : Nat} {text : List Char} {v : Json}
    (h : readAll (readValue asWritten depth) text = .ok v) :
    ∃ used after, text = used ++ after ∧ EndsVisibly used ∧ Blank after ∧ nesting text ≤ depth ∧
      ∀ d, nesting text ≤ d → (readValue asWritten d).Takes Stops used v := by
  unfold readAll at h
  split at h
  · cases h
  next v' rest read_eq =>
  split at h
  · next blank_eq =>
    cases h
    obtain ⟨used, n, rfl, ends, le, nests, takes⟩ := readValue_local asWritten depth _ _ _ read_eq
    have blank := blank_of_skipSpace_eq_nil blank_eq
    have nesting_eq := (nests.append blank.nests).nesting_eq
    exact ⟨used, rest, rfl, ends, blank, by omega, fun d deep => takes d (by omega)⟩
  · cases h

/-- **A text is read by just those readers that may go as deep as it nests.** -/
theorem readAll_iff_nesting_le {asWritten : Bool} {depth : Nat} {text : List Char} {v : Json}
    (h : readAll (readValue asWritten depth) text = .ok v) (d : Nat) :
    readAll (readValue asWritten d) text = .ok v ↔ nesting text ≤ d := by
  constructor
  · intro again
    obtain ⟨used, after, -, -, -, le, -⟩ := readAll_local again
    exact le
  · intro deep
    obtain ⟨used, after, text_eq, -, blank, -, takes⟩ := readAll_local h
    rw [text_eq]
    exact (takes d deep).readAll blank

/-- A value begins with no blank of any kind, and not like the end of a list. -/
theorem readValue_begins {asWritten : Bool} {depth : Nat} {c : Char} {t rest : List Char} {v : Json}
    (visible : isSpace c = false) (h : readValue asWritten depth (c :: t) = .ok (v, rest)) :
    Text.isBlank c = false ∧ c ≠ ']' := by
  obtain ⟨list, object, h⟩ : ∃ list object, readWith list object (c :: t) = .ok (v, rest) := by
    cases depth <;> exact ⟨_, _, h⟩
  rw [readWith, skipSpace_cons visible] at h
  split at h <;> rename_i same
  case h_1 => cases same
  case h_8 =>
    obtain ⟨rfl, rfl⟩ := List.cons.inj same
    split at h
    · next starts =>
      rcases starts with rfl | digit
      · decide
      · refine ⟨Text.isBlank_eq_false_of_digit digit, ?_⟩
        rintro rfl
        cases digit
    · cases h
  all_goals
    cases same
    decide

/-- **A text of its own is the text of an item**, for every reader that may go as deep as it
nests. -/
theorem isItem_of_readAll {asWritten : Bool} {depth : Nat} {text : List Char} {v : Json}
    (h : readAll (readValue asWritten depth) text = .ok v) {d : Nat} (deep : nesting text ≤ d) :
    IsItem (readValue asWritten d) text v := by
  obtain ⟨used, after, rfl, ends, blank_after, -, takes⟩ := readAll_local h
  obtain ⟨before, c, t, blank_before, rfl, visible⟩ := ends.exists_visible
  have takes_value : (readValue asWritten d).Takes Stops (c :: t) v := by
    intro rest stops
    rw [← readValue_gap blank_before, ← List.append_assoc]
    exact takes d deep rest stops
  obtain ⟨-, not_end⟩ := readValue_begins visible (takes_value [] .nil)
  rw [List.append_assoc]
  exact .intro blank_before visible not_end takes_value blank_after

/-- A text that is read is not blank. -/
theorem all_isBlank_of_readAll {asWritten : Bool} {depth : Nat} {text : List Char} {v : Json}
    (h : readAll (readValue asWritten depth) text = .ok v) : text.all Text.isBlank = false := by
  obtain ⟨-, visible, -, takes, -⟩ := isItem_of_readAll h (Nat.le_refl _)
  obtain ⟨not_blank, -⟩ := readValue_begins visible (takes [] .nil)
  simp [not_blank]

/-- A blank at the end of a text may be left out. -/
theorem readAll_of_concat {asWritten : Bool} {depth : Nat} {text : List Char} {c : Char} {v : Json}
    (space : isSpace c = true) (h : readAll (readValue asWritten depth) (text ++ [c]) = .ok v) :
    readAll (readValue asWritten depth) text = .ok v := by
  obtain ⟨used, after, text_eq, ends, blank_after, deep, takes⟩ := readAll_local h
  rcases List.eq_nil_or_concat after with rfl | ⟨after, d, rfl⟩
  · obtain ⟨inner, d, rfl, visible⟩ := ends
    rw [List.append_nil] at text_eq
    obtain ⟨-, same⟩ := List.append_inj' text_eq rfl
    cases same
    rw [space] at visible
    cases visible
  · rw [List.concat_eq_append, ← List.append_assoc] at text_eq
    obtain ⟨rfl, -⟩ := List.append_inj' text_eq rfl
    exact (takes depth deep).readAll fun e mem => blank_after e (by simp [mem])

/-- **A list of items is read as the list of their values.** -/
theorem readAll_of_isItems {asWritten : Bool} {depth : Nat} {text : List Char} {values : List Json}
    (h : IsItems (IsItem (readValue asWritten depth)) text values) :
    readAll (readValue asWritten (depth + 1)) ('[' :: (text ++ [']'])) = .ok (.array values) := by
  have list_read : readValue asWritten (depth + 1) ('[' :: (text ++ [']'])) =
      .ok (.array values, []) := by
    show (readListBody (readValue asWritten depth) (text ++ [']']) >>= fun r => _) = _
    rw [readListBody_of_isItems h []]
    rfl
  rw [readAll, list_read]
  rfl

end Intake.Json
