import Intake.Proofs.Json.LocalItems
import Intake.Proofs.Json.Members

/-!
# What an object depends on

What was read as an object, with a local reader for its values, is the text of its members, or of a
number after the number marker (`isObject_of_readObjectBody`). So it is read again from the
characters up to its closing brace (`readObjectBody_local`). Each step on the way, to a key, over a
colon, to the closing brace, takes characters off that say by themselves where the step ends.
-/

namespace Intake.Json

open Intake.Numeral

/-! ## Keys -/

theorem readColon_local {s rest : List Char} (h : readColon s = .ok rest) :
    ∃ gap, Blank gap ∧ s = gap ++ ':' :: rest := by
  unfold readColon at h
  split at h
  · cases h
  next c t skip_eq =>
  obtain ⟨gap, blank, rfl, -⟩ := of_skipSpace_eq_cons skip_eq
  split at h
  · next colon =>
    cases h
    exact ⟨gap, blank, by rw [colon]⟩
  · cases h

/-- The string of a key says where it ends, so a key nests nothing. -/
theorem IsKey.nests {text : List Char} {key : String} (h : IsKey text key) : Nests 0 text := by
  cases h with
  | @intro before chars gap key blank_before reads blank =>
    -- Whatever is read as the string ends with the quote that is there.
    obtain ⟨used, text_eq, quiet, -⟩ := readString_local (reads [])
    obtain ⟨rfl, -⟩ := List.append_inj' text_eq rfl
    have colon : Nests 0 (gap ++ [':']) := blank.nests.append (.plain (List.all_eq_true.mp rfl))
    have whole := blank_before.nests.append ((Nests.string quiet).append colon)
    simpa using whole

/-- What was read as the first key and its colon is the text of a key. -/
theorem exists_key_first {s t rest : List Char} {key : String}
    (key_eq : nextKey true s = .ok (some key, t)) (colon_eq : readColon t = .ok rest) :
    ∃ text, s = text ++ rest ∧ IsKey text key := by
  obtain ⟨gap, blank, rfl⟩ := readColon_local colon_eq
  unfold nextKey at key_eq
  split at key_eq
  · cases key_eq
  next c t skip_eq =>
  obtain ⟨before, blank_before, rfl, -⟩ := of_skipSpace_eq_cons skip_eq
  split at key_eq
  · cases key_eq
  rw [if_pos rfl] at key_eq
  split at key_eq
  · next quote =>
    obtain ⟨⟨key', s₁⟩, string_eq, done⟩ := bind_eq_ok.mp key_eq
    cases done
    obtain ⟨chars, rfl, -, again⟩ := readString_local string_eq
    exact ⟨_, by simp [quote], .intro blank_before again blank⟩
  · cases key_eq

/-- So is what was read as a key that follows others, after its comma. -/
theorem exists_key_later {s t rest : List Char} {key : String}
    (key_eq : nextKey false s = .ok (some key, t)) (colon_eq : readColon t = .ok rest) :
    ∃ gap text, Blank gap ∧ s = gap ++ ',' :: (text ++ rest) ∧ IsKey text key := by
  obtain ⟨gap, blank, rfl⟩ := readColon_local colon_eq
  unfold nextKey at key_eq
  split at key_eq
  · cases key_eq
  next c t skip_eq =>
  obtain ⟨front, blank_front, rfl, -⟩ := of_skipSpace_eq_cons skip_eq
  split at key_eq
  · cases key_eq
  rw [if_neg Bool.false_ne_true] at key_eq
  split at key_eq
  · next comma =>
    split at key_eq
    · cases key_eq
    next d t skip_eq =>
    obtain ⟨before, blank_before, rfl, -⟩ := of_skipSpace_eq_cons skip_eq
    split at key_eq
    · next quote =>
      obtain ⟨⟨key', s₁⟩, string_eq, done⟩ := bind_eq_ok.mp key_eq
      cases done
      obtain ⟨chars, rfl, -, again⟩ := readString_local string_eq
      exact ⟨front, _, blank_front, by simp [quote, comma], .intro blank_before again blank⟩
    · split at key_eq <;> cases key_eq
  · cases key_eq

theorem nextKey_end_local {first : Bool} {s rest : List Char}
    (h : nextKey first s = .ok (none, rest)) :
    ∃ gap t, Blank gap ∧ s = gap ++ rest ∧ rest = '\x7d' :: t := by
  have no_key {s rest : List Char} :
      (readString s >>= fun r => pure (some r.1, r.2) : Except Fault (Option String × List Char)) ≠
        .ok (none, rest) := by
    intro h
    obtain ⟨_, -, h⟩ := bind_eq_ok.mp h
    cases h
  unfold nextKey at h
  split at h
  · cases h
  next c t skip_eq =>
  obtain ⟨gap, blank, rfl, -⟩ := of_skipSpace_eq_cons skip_eq
  split at h
  · next is_end =>
    cases h
    exact ⟨gap, t, blank, rfl, by rw [is_end]⟩
  split at h
  · split at h
    · exact absurd h no_key
    · cases h
  split at h
  · split at h
    · cases h
    split at h
    · exact absurd h no_key
    split at h <;> cases h
  · cases h

theorem closeObject_local {s rest : List Char} (h : closeObject s = .ok rest) :
    ∃ gap, Blank gap ∧ s = gap ++ '\x7d' :: rest := by
  unfold closeObject at h
  split at h
  · cases h
  next c t skip_eq =>
  obtain ⟨gap, blank, rfl, -⟩ := of_skipSpace_eq_cons skip_eq
  split at h
  · next is_end =>
    cases h
    exact ⟨gap, blank, by rw [is_end]⟩
  split at h <;> cases h

/-- Only a string is taken for the number after the marker, so depth does not matter there. -/
theorem readMarkedNumber_local {depth : Nat} {s rest : List Char} {n : Literal}
    (h : readMarkedNumber depth s = .ok (n, rest)) :
    ∃ used, s = used ++ rest ∧ Nests 0 used ∧
      ∀ depth rest, readMarkedNumber depth (used ++ rest) = .ok (n, rest) := by
  unfold readMarkedNumber at h
  split at h
  case h_2 t skip_eq =>
    obtain ⟨gap, blank, rfl, -⟩ := of_skipSpace_eq_cons skip_eq
    obtain ⟨⟨text, s₁⟩, text_eq, read_eq⟩ := bind_eq_ok.mp h
    dsimp only at read_eq
    split at read_eq
    · next n' number_eq =>
      cases read_eq
      obtain ⟨used, rfl, quiet, again⟩ := readString_local text_eq
      refine ⟨gap ++ '"' :: (used ++ ['"']), by simp, blank.nests.append (.string quiet),
        fun depth rest => ?_⟩
      rw [readMarkedNumber, List.append_assoc, List.cons_append, skipSpace_gap blank (by decide)]
      simp only [List.append_assoc, List.cons_append, List.nil_append]
      rw [again]
      dsimp only [bind, Except.bind]
      rw [number_eq]
    · cases read_eq
  case h_1 => cases h
  case h_6 => split at h <;> cases h
  case h_7 => split at h <;> cases h
  case h_8 =>
    split at h
    · obtain ⟨_, -, h⟩ := bind_eq_ok.mp h
      cases h
    · cases h
  all_goals
    obtain ⟨_, -, h⟩ := bind_eq_ok.mp h
    cases h

section

variable {asWritten : Bool} {value : Reader Json} {most : Nat} {again : Nat → Reader Json}

/-- Members after the first: the blanks before their comma belong to the member before. -/
theorem readMembers_local (local_value : LocalTo value most again) {fuel : Nat}
    {before members : List (String × Json)} {s rest : List Char}
    (h : readMembers asWritten value fuel false before s = .ok (members, rest)) :
    ∃ gap more added n t, Blank gap ∧ s = gap ++ (more ++ rest) ∧ rest = '\x7d' :: t ∧
      members = addMembers asWritten before added ∧ n ≤ most ∧ Nests n more ∧
      ∀ d, n ≤ d → IsTail (IsMember (again d)) more added := by
  induction fuel generalizing before members s rest with
  | zero => cases h
  | succ fuel ih =>
    rw [readMembers] at h
    obtain ⟨⟨key?, s₁⟩, key_eq, read_eq⟩ := bind_eq_ok.mp h
    cases key? with
    | none =>
      cases read_eq
      obtain ⟨gap, t, blank, rfl, rfl⟩ := nextKey_end_local key_eq
      exact ⟨gap, [], [], 0, t, blank, rfl, rfl, rfl, Nat.zero_le _, .nil, fun d le => .nil⟩
    | some key =>
      obtain ⟨s₂, colon_eq, after_colon⟩ := bind_eq_ok.mp read_eq
      obtain ⟨⟨v, s₃⟩, value_eq, after_value⟩ := bind_eq_ok.mp after_colon
      obtain ⟨gap, keyText, blank, rfl, is_key⟩ := exists_key_later key_eq colon_eq
      obtain ⟨used, n, rfl, ends, le_most, nests, takes⟩ := local_value _ _ _ value_eq
      -- The rest gives the blanks after this value, which complete the text of its member.
      obtain ⟨after, more, added, m, t, blank_after, rfl, rest_eq, members_eq, more_le, more_nests,
        is_tail⟩ := ih after_value
      have member_nests := is_key.nests.append (nests.append blank_after.nests)
      refine ⟨gap, ',' :: (keyText ++ (used ++ after) ++ more), (key, v) :: added, _, t, blank,
        by simp, rest_eq, members_eq, by omega, (member_nests.append more_nests).plain_cons rfl,
        fun d le => ?_⟩
      exact .cons (.intro is_key (takes d (by omega)) blank_after) (is_tail d (by omega))

/-- Only a string is taken for the number after the marker, so neither depth nor the reader of
values matters there. -/
theorem readMarkedBody_local {depth : Nat} {object : Json} {s rest : List Char}
    (h : readMarkedBody depth s = .ok (object, rest)) :
    ∃ n used, object = .number n ∧ s = used ++ '\x7d' :: rest ∧ Nests 0 used ∧
      ∀ depth rest, readMarkedBody depth (used ++ '\x7d' :: rest) = .ok (object, rest) := by
  obtain ⟨⟨n, s₁⟩, number_eq, after_number⟩ := bind_eq_ok.mp h
  obtain ⟨s₂, close_eq, done⟩ := bind_eq_ok.mp after_number
  cases done
  obtain ⟨used, rfl, nests, number_again⟩ := readMarkedNumber_local number_eq
  obtain ⟨after, blank, rfl⟩ := closeObject_local close_eq
  refine ⟨n, used ++ after, rfl, by simp, nests.append blank.nests, fun depth rest => ?_⟩
  rw [readMarkedBody, List.append_assoc, number_again]
  show (closeObject (after ++ '\x7d' :: rest) >>= fun r => _) = _
  rw [closeObject_gap blank]
  rfl

/-- The text of an object that was read: a number after the number marker, which is read again
whatever the reader of values, or else the text of members. -/
inductive IsObject (asWritten : Bool) (most : Nat) (again : Nat → Reader Json) :
    List Char → Json → Prop
  | marked {keyText used : List Char} {n : Literal} (is_key : IsKey keyText numberMarker)
      (nests : Nests 0 (keyText ++ used))
      (reads : ∀ depth (value : Reader Json) rest,
        readObjectBody asWritten depth value (keyText ++ used ++ '\x7d' :: rest) =
          .ok (.number n, rest)) :
      IsObject asWritten most again (keyText ++ used) (.number n)
  | members {text : List Char} {members : List (String × Json)} {n : Nat} (le_most : n ≤ most)
      (nests : Nests n text)
      (unmarked : asWritten = false → (members.map Prod.fst).head? ≠ some numberMarker)
      (are_members : ∀ d, n ≤ d → IsItems (IsMember (again d)) text members) :
      IsObject asWritten most again text (.object (addMembers asWritten [] members))

theorem readMembersBody_local (local_value : LocalTo value most again) {keyText : List Char}
    {key : String} (is_key : IsKey keyText key)
    (unmarked : asWritten = false → key ≠ numberMarker) {object : Json} {s rest : List Char}
    (h : readMembersBody asWritten value key s = .ok (object, rest)) :
    ∃ used, s = used ++ '\x7d' :: rest ∧
      IsObject asWritten most again (keyText ++ used) object := by
  obtain ⟨⟨v, s₁⟩, value_eq, after_value⟩ := bind_eq_ok.mp h
  obtain ⟨⟨members, s₂⟩, members_eq, after_members⟩ := bind_eq_ok.mp after_value
  obtain ⟨s₃, close_eq, done⟩ := bind_eq_ok.mp after_members
  cases done
  obtain ⟨used, n, rfl, ends, le_most, nests, takes⟩ := local_value _ _ _ value_eq
  obtain ⟨after, more, added, m, t, blank_after, rfl, rfl, rfl, more_le, more_nests, is_tail⟩ :=
    readMembers_local local_value members_eq
  cases close_eq
  have member_nests := is_key.nests.append (nests.append blank_after.nests)
  refine ⟨used ++ after ++ more, by simp, ?_⟩
  rw [← List.append_assoc, ← addMember_empty key v, ← addMembers_cons]
  refine .members (by omega) (member_nests.append more_nests)
    (fun merged same => unmarked merged (Option.some.inj same)) fun d le => ?_
  exact .cons (.intro is_key (takes d (by omega)) blank_after) (is_tail d (by omega))

/-- **What was read as an object is the text of one**, up to its closing brace. -/
theorem isObject_of_readObjectBody (local_value : LocalTo value most again) {depth : Nat}
    {object : Json} {s rest : List Char}
    (h : readObjectBody asWritten depth value s = .ok (object, rest)) :
    ∃ text, s = text ++ '\x7d' :: rest ∧ IsObject asWritten most again text object := by
  obtain ⟨⟨key?, s₁⟩, key_eq, after_key⟩ := bind_eq_ok.mp h
  cases key? with
  | none =>
    obtain ⟨s₂, close_eq, done⟩ := bind_eq_ok.mp after_key
    cases done
    obtain ⟨gap, t, blank, rfl, rfl⟩ := nextKey_end_local key_eq
    cases close_eq
    refine ⟨gap, rfl, ?_⟩
    rw [← addMembers_nil []]
    exact .members (Nat.zero_le _) blank.nests nofun fun d le => .nil blank
  | some key =>
    rw [readObjectBody_of_key key_eq] at h
    obtain ⟨s₂, colon_eq, body_eq⟩ := bind_eq_ok.mp h
    obtain ⟨keyText, rfl, is_key⟩ := exists_key_first key_eq colon_eq
    -- The first key alone decides which kind of object it is.
    by_cases marked : key = numberMarker ∧ asWritten = false
    · rw [if_pos marked] at body_eq
      obtain ⟨n, used, rfl, rfl, nests, body_again⟩ := readMarkedBody_local body_eq
      refine ⟨keyText ++ used, by simp, .marked (marked.1 ▸ is_key) (is_key.nests.append nests) ?_⟩
      intro depth value rest
      obtain ⟨t, key_read, colon_read⟩ := is_key.read_first (used ++ '\x7d' :: rest)
      rw [List.append_assoc, readObjectBody_of_key key_read, colon_read]
      exact (if_pos marked).trans (body_again depth rest)
    · rw [if_neg marked] at body_eq
      obtain ⟨used, rfl, is_object⟩ := readMembersBody_local local_value is_key
        (fun merged same => marked ⟨same, merged⟩) body_eq
      exact ⟨keyText ++ used, by simp, is_object⟩

/-- **An object is read off again** from the characters up to its closing brace. -/
theorem readObjectBody_local (local_value : LocalTo value most again) {depth : Nat} {object : Json}
    {s rest : List Char} (h : readObjectBody asWritten depth value s = .ok (object, rest)) :
    ∃ used n, s = used ++ '\x7d' :: rest ∧ n ≤ most ∧ Nests n used ∧
      ∀ d, n ≤ d → ∀ depth rest,
        readObjectBody asWritten depth (again d) (used ++ '\x7d' :: rest) = .ok (object, rest) := by
  obtain ⟨text, rfl, is_object⟩ := isObject_of_readObjectBody local_value h
  cases is_object with
  | marked is_key nests reads =>
    exact ⟨_, 0, rfl, Nat.zero_le _, nests, fun d le depth rest => reads depth (again d) rest⟩
  | members le_most nests unmarked are_members =>
    exact ⟨text, _, rfl, le_most, nests,
      fun d le depth rest => readObjectBody_of_isItems (are_members d le) unmarked depth rest⟩

end

end Intake.Json
