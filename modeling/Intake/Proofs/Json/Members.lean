import Intake.Proofs.Json.DistinctKeys
import Intake.Proofs.Json.Items

/-!
# The text of an object

The members of an object stand between commas, each a key, a colon and a value, with any blanks
around each of them (`IsMember`). An object is read off every such text
(`readObjectBody_of_isItems`). Its members are added one after the other to those before them, so a
key that comes up again gives its member a new value (`addMembers`).
-/

namespace Intake.Json

/-! ## Keys -/

/-- The text of a key and its colon, with any blanks around it. -/
inductive IsKey : List Char → String → Prop
  | intro {before chars gap : List Char} {key : String} (blank_before : Blank before)
      (reads : ∀ rest, readString (chars ++ '"' :: rest) = .ok (key, rest)) (blank : Blank gap) :
      IsKey (before ++ '"' :: (chars ++ '"' :: (gap ++ [':']))) key

theorem readColon_gap {gap : List Char} (blank : Blank gap) (rest : List Char) :
    readColon (gap ++ ':' :: rest) = .ok rest := by
  rw [readColon, skipSpace_gap blank (by decide)]
  rfl

/-- The first key of an object is read up to its colon, and the colon after it. -/
theorem IsKey.read_first {text : List Char} {key : String} (h : IsKey text key)
    (rest : List Char) :
    ∃ s, nextKey true (text ++ rest) = .ok (some key, s) ∧ readColon s = .ok rest := by
  cases h with
  | @intro before chars gap key blank_before reads blank =>
    refine ⟨gap ++ ':' :: rest, ?_, readColon_gap blank rest⟩
    simp only [List.append_assoc, List.cons_append, List.nil_append]
    rw [nextKey, skipSpace_gap blank_before (by decide)]
    show (readString (chars ++ '"' :: (gap ++ ':' :: rest)) >>= fun r => _) = _
    rw [reads]
    rfl

/-- So is a key that follows others, after its comma. -/
theorem IsKey.read_later {text after : List Char} {key : String} (h : IsKey text key)
    (blank_after : Blank after) (rest : List Char) :
    ∃ s, nextKey false (after ++ ',' :: (text ++ rest)) = .ok (some key, s) ∧
      readColon s = .ok rest := by
  cases h with
  | @intro before chars gap key blank_before reads blank =>
    refine ⟨gap ++ ':' :: rest, ?_, readColon_gap blank rest⟩
    have quote : skipSpace (before ++ '"' :: (chars ++ '"' :: (gap ++ ':' :: rest))) =
        '"' :: (chars ++ '"' :: (gap ++ ':' :: rest)) := skipSpace_gap blank_before (by decide) _
    simp only [List.append_assoc, List.cons_append, List.nil_append]
    rw [nextKey, skipSpace_gap blank_after (by decide)]
    simp only [quote]
    show (readString (chars ++ '"' :: (gap ++ ':' :: rest)) >>= fun r => _) = _
    rw [reads]
    rfl

theorem nextKey_end {gap : List Char} (blank : Blank gap) (first : Bool) (rest : List Char) :
    nextKey first (gap ++ '\x7d' :: rest) = .ok (none, '\x7d' :: rest) := by
  rw [nextKey, skipSpace_gap blank (by decide)]
  rfl

theorem closeObject_gap {gap : List Char} (blank : Blank gap) (rest : List Char) :
    closeObject (gap ++ '\x7d' :: rest) = .ok rest := by
  rw [closeObject, skipSpace_gap blank (by decide)]
  rfl

/-! ## What stands after the first key -/

section

variable {asWritten : Bool} {value : Reader Json}

/-- Reads the number after the number marker, and the brace that closes its object. -/
def readMarkedBody (depth : Nat) : Reader Json := fun s => do
  let (n, s) ← readMarkedNumber depth s
  return (.number n, ← closeObject s)

/-- Reads the value of a first member, the members after it, and the brace that closes their
object. -/
def readMembersBody (asWritten : Bool) (value : Reader Json) (key : String) : Reader Json :=
  fun s => do
    let (v, s) ← value s
    let (members, s) ← readMembers asWritten value (s.length + 1) false [(key, v)] s
    return (.object members, ← closeObject s)

/-- An object with a first key goes on as the key says. -/
theorem readObjectBody_of_key {s t : List Char} {key : String}
    (key_eq : nextKey true s = .ok (some key, t)) (depth : Nat) :
    readObjectBody asWritten depth value s =
      readColon t >>= fun t =>
        if key = numberMarker ∧ asWritten = false then readMarkedBody depth t
        else readMembersBody asWritten value key t := by
  rw [readObjectBody, key_eq]
  rfl

/-! ## Members between commas -/

/-- The text of a member: its key with a colon, its value, and any blanks after it. -/
inductive IsMember (value : Reader Json) : List Char → String × Json → Prop
  | intro {keyText text after : List Char} {key : String} {v : Json} (is_key : IsKey keyText key)
      (takes : value.Takes Stops text v) (blank_after : Blank after) :
      IsMember value (keyText ++ (text ++ after)) (key, v)

/-- Adds members to those before them, one after the other. -/
def addMembers (asWritten : Bool) (before members : List (String × Json)) : List (String × Json) :=
  members.foldl (fun before member => addMember asWritten member.1 member.2 before) before

@[simp] theorem addMembers_nil (before : List (String × Json)) :
    addMembers asWritten before [] = before := rfl

@[simp] theorem addMembers_cons (before : List (String × Json)) (key : String) (v : Json)
    (members : List (String × Json)) :
    addMembers asWritten before ((key, v) :: members) =
      addMembers asWritten (addMember asWritten key v before) members := rfl

@[simp] theorem addMember_empty (key : String) (v : Json) :
    addMember asWritten key v [] = [(key, v)] := by cases asWritten <;> rfl

/-- A member of a new key goes to the end. -/
theorem addMember_of_fresh {key : String} {v : Json} {members : List (String × Json)}
    (fresh : asWritten = false → key ∉ members.map Prod.fst) :
    addMember asWritten key v members = members ++ [(key, v)] := by
  cases asWritten with
  | true => rfl
  | false => exact putEntry_of_not_mem (fresh rfl)

/-- Members of distinct keys stay as they are, in their order. -/
theorem addMembers_of_distinct {before members : List (String × Json)}
    (distinct : asWritten = false → ((before ++ members).map Prod.fst).Nodup) :
    addMembers asWritten before members = before ++ members := by
  induction members generalizing before with
  | nil => rw [addMembers_nil, List.append_nil]
  | cons member members ih =>
    obtain ⟨key, v⟩ := member
    have fresh : asWritten = false → key ∉ before.map Prod.fst := by
      intro merged inside
      have nodup := distinct merged
      rw [List.map_append, List.nodup_append] at nodup
      exact nodup.2.2 key inside key List.mem_cons_self rfl
    have one_more : before ++ (key, v) :: members = before ++ [(key, v)] ++ members := by simp
    rw [one_more] at distinct ⊢
    rw [addMembers_cons, addMember_of_fresh fresh, ih distinct]

theorem addMembers_append (before front back : List (String × Json)) :
    addMembers asWritten before (front ++ back) =
      addMembers asWritten (addMembers asWritten before front) back := List.foldl_append

/-- Members after the first are added up to the end of their object. -/
theorem readMembers_of_isTail {more : List Char} {members : List (String × Json)}
    (h : IsTail (IsMember value) more members) {gap : List Char} (blank : Blank gap) {fuel : Nat}
    (enough : members.length < fuel) (before : List (String × Json)) (rest : List Char) :
    readMembers asWritten value fuel false before (gap ++ (more ++ '\x7d' :: rest)) =
      .ok (addMembers asWritten before members, '\x7d' :: rest) := by
  -- The blanks after a value are skipped with the next comma, so the gap varies, and so do the
  -- members that are there already.
  induction h generalizing gap fuel before with
  | nil =>
    obtain ⟨fuel, rfl⟩ := Nat.exists_eq_add_one_of_ne_zero (Nat.ne_zero_of_lt enough)
    rw [readMembers, List.nil_append, nextKey_end blank]
    rfl
  | @cons text more member members is_member tail ih =>
    obtain ⟨fuel, rfl⟩ := Nat.exists_eq_add_one_of_ne_zero (Nat.ne_zero_of_lt enough)
    cases is_member with
    | @intro keyText text after key v is_key takes blank_after =>
      obtain ⟨s, key_read, colon_read⟩ :=
        is_key.read_later blank (text ++ (after ++ (more ++ '\x7d' :: rest)))
      have value_read := takes _ (blank_after.stops (tail.stops '\x7d' rfl rest))
      have tail_read := ih blank_after (Nat.lt_of_succ_lt_succ enough)
        (addMember asWritten key v before)
      simp only [List.cons_append, List.append_assoc]
      rw [readMembers, key_read]
      show (readColon s >>= fun r => _) = _
      rw [colon_read]
      show (value (text ++ _) >>= fun r => _) = _
      rw [value_read]
      exact tail_read

/-- **An object is read off the text of its members** and its closing brace, unless its first key
is the number marker and has a meaning. -/
theorem readObjectBody_of_isItems {text : List Char} {members : List (String × Json)}
    (h : IsItems (IsMember value) text members)
    (unmarked : asWritten = false → (members.map Prod.fst).head? ≠ some numberMarker)
    (depth : Nat) (rest : List Char) :
    readObjectBody asWritten depth value (text ++ '\x7d' :: rest) =
      .ok (.object (addMembers asWritten [] members), rest) := by
  cases h with
  | nil blank =>
    rw [readObjectBody, nextKey_end blank]
    rfl
  | @cons text more _ members is_member tail =>
    cases is_member with
    | @intro keyText text after key v is_key takes blank_after =>
      have not_marker : ¬ (key = numberMarker ∧ asWritten = false) :=
        fun marker => unmarked marker.2 (congrArg some marker.1)
      obtain ⟨s, key_read, colon_read⟩ :=
        is_key.read_first (text ++ (after ++ (more ++ '\x7d' :: rest)))
      have value_read := takes _ (blank_after.stops (tail.stops '\x7d' rfl rest))
      have enough : members.length < (after ++ (more ++ '\x7d' :: rest)).length + 1 := by
        have := tail.length_le
        simp only [List.length_append, List.length_cons]
        omega
      have tail_read : readMembers asWritten value _ false [(key, v)] _ = _ :=
        readMembers_of_isTail tail blank_after enough [(key, v)] rest
      simp only [List.append_assoc]
      rw [readObjectBody_of_key key_read, colon_read]
      show (if key = numberMarker ∧ asWritten = false then _ else
        value (text ++ _) >>= fun r => _) = _
      -- From here on the key is one like any other.
      rw [if_neg not_marker, value_read]
      show (readMembers asWritten value _ false [(key, v)] _ >>= fun r => _) = _
      rw [tail_read]
      show (closeObject ('\x7d' :: rest) >>= fun r => _) = _
      rw [addMembers_cons, addMember_empty]
      rfl

end

end Intake.Json
