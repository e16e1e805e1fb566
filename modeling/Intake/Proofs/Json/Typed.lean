import Intake.Json.Typed
import Intake.Proofs.Json.RoundTrip

/-!
# Typed readers and printed values

A reader of a kind restores what is printed of that kind: it takes the text of the value, whatever
follows, and gives what the value stands for (`Reader.Restores`). Records are the case with steps. A
member that is printed takes the draft of the record from one state to the next, and
`Shape.Fills` is the way of a draft along the printed members; the loop of the reader goes that way
(`Shape.readKeyed_fills`), so a record is restored from any object whose members fill its draft and
leave none out that has to be there (`Shape.read_restores`).

In the other direction, it is enough to know of each member's reader what it keeps true of a draft,
to know it of the records that are read, however they are written (`Shape.read_gives`).
-/

namespace Intake.Json

/-! ## Restoring -/

/-- The reader gives the result for the text of the value, whatever follows it. -/
structure Reader.Restores {α : Type} (reader : Reader α) (value : Json) (a : α) : Prop where
  /-- The text can stand as an item of a list. -/
  starts : ∃ c rest, value.chars = c :: rest ∧ isSpace c = false ∧ c ≠ ']'
  takes : ∀ rest, reader (value.chars ++ rest) = .ok (a, rest)

variable {α β : Type}

theorem Reader.Restores.map {reader : Reader α} {value : Json} {a : α}
    (h : reader.Restores value a) (f : α → β) : (reader.map f).Restores value (f a) where
  starts := h.starts
  takes rest := by
    rw [Reader.map, h.takes]
    rfl

/-- A whole text is restored. -/
theorem Reader.Restores.readAll {reader : Reader α} {value : Json} {a : α}
    (h : reader.Restores value a) : readAll reader value.text.toList = .ok a := by
  have whole := h.takes []
  rw [List.append_nil] at whole
  rw [text, String.toList_ofList, Json.readAll, whole]
  rfl

/-- A value is restored by the reader of values, if it reads back. -/
theorem readValue_restores {asWritten : Bool} {depth : Nat} {value : Json}
    (h : ReadsBack asWritten depth value) : (readValue asWritten depth).Restores value value where
  starts := h.chars_eq_cons
  takes := readValue_chars h

/-! ### Simple kinds -/

theorem stringReader_takes (expected s : String) (rest : List Char) :
    stringReader expected ((Json.string s).chars ++ rest) = .ok (s, rest) := by
  have text_eq : (Json.string s).chars ++ rest = '"' :: (escape s.toList ++ '"' :: rest) := by
    simp [chars, stringChars]
  rw [text_eq]
  exact readString_escape s rest

theorem string_starts (s : String) :
    ∃ c rest, (Json.string s).chars = c :: rest ∧ isSpace c = false ∧ c ≠ ']' :=
  ⟨'"', _, rfl, by decide, by decide⟩

theorem aString_restores (s : String) : aString.Restores (.string s) s where
  starts := string_starts s
  takes := stringReader_takes "a string" s

theorem aBool_restores (value : Bool) : aBool.Restores (.bool value) value where
  starts := by
    have reads_back : ReadsBack true 0 (.bool value) := .bool 0 value
    exact reads_back.chars_eq_cons
  takes rest := by cases value <;> rfl

/-- A name stands for its value. -/
theorem oneOf_restores (depth : Nat) {known : List (String × α)} {name : String} {a : α}
    (h : known.lookup name = some a) : (oneOf depth known).Restores (.string name) a where
  starts := string_starts name
  takes rest := by
    show nameReader known ((Json.string name).chars ++ rest) = _
    rw [nameReader, stringReader_takes]
    show nameValue known name rest = _
    rw [nameValue, h]

theorem optional_restores_null (reader : Reader α) : (optional reader).Restores .null none where
  starts := ⟨'n', _, rfl, by decide, by decide⟩
  takes _ := rfl

/-- A value that is there is restored as such, unless it begins like null. -/
theorem optional_restores {reader : Reader α} {value : Json} {a : α} (h : reader.Restores value a)
    (no_null : value.chars.head? ≠ some 'n') : (optional reader).Restores value (some a) where
  starts := h.starts
  takes rest := by
    obtain ⟨c, more, chars_eq, visible, -⟩ := h.starts
    have not_n : c ≠ 'n' := by
      rw [chars_eq] at no_null
      exact fun same => no_null (congrArg some same)
    have read := h.takes rest
    rw [chars_eq, List.cons_append] at read ⊢
    unfold optional
    rw [skipSpace_cons visible]
    split
    · next same => exact absurd (List.cons.inj same).1 not_n
    · rw [read]
      rfl

/-! ### Lists -/

theorem Reader.Restores.isItem {item : Reader α} {value : Json} {a : α}
    (h : item.Restores value a) : IsItem item value.chars a := by
  obtain ⟨c, used, chars_eq, visible, not_end⟩ := h.starts
  have is_item : IsItem item ([] ++ (c :: used ++ [])) a :=
    .intro .nil visible not_end (fun rest _ => by rw [← chars_eq]; exact h.takes rest) .nil
  rwa [List.nil_append, List.append_nil, ← chars_eq] at is_item

/-- **A list is restored** if its items are. -/
theorem aList_restores {depth : Nat} (room : 0 < depth) {item : Reader α} {values : List Json}
    {as : List α} (h : List.Forall₂ item.Restores values as) :
    (aList depth item).Restores (.array values) as where
  starts := ⟨'[', _, rfl, by decide, by decide⟩
  takes rest := by
    have items : IsItems (IsItem item) (itemsChars values) as := by
      cases h with
      | nil => exact .nil .nil
      | cons first others =>
        rw [itemsChars_cons, itemsTail, ← List.flatMap_map chars]
        refine .cons first.isItem (isTail_flatMap ?_)
        exact List.forall₂_map_left_iff.mpr (others.imp fun _ _ restores => restores.isItem)
    rw [array_chars_append]
    show (if depth = 0 then _ else readListBody item (itemsChars values ++ ']' :: rest)) = _
    rw [if_neg (Nat.ne_of_gt room), readListBody_of_isItems items]

/-! ### Maps -/

/-- The printed member stands for the entry: it has its key, and its value is restored. -/
structure Reader.RestoresEntry (value : Reader α) (member : String × Json) (entry : String × α) :
    Prop where
  key_eq : entry.1 = member.1
  restores : value.Restores member.2 entry.2

/-- One entry is read, and the others after it. -/
theorem readEntries_step {value : Reader α} {key : String} {json : Json} {a : α}
    (h : value.Restores json a) {first : Bool} {s rest : List Char}
    (key_read : nextKey first s = .ok (some key, ':' :: (json.chars ++ rest))) (fuel : Nat) :
    readEntries value (fuel + 1) first s =
      (readEntries value fuel false rest).map fun read => ((key, a) :: read.1, read.2) := by
  rw [readEntries, key_read]
  show (value (json.chars ++ rest) >>= fun r => _) = _
  rw [h.takes]
  show (readEntries value fuel false rest >>= fun r => _) = _
  cases readEntries value fuel false rest <;> rfl

/-- Entries after the first are read up to the end of their map. -/
theorem readEntries_tail {value : Reader α} {members : List (String × Json)}
    {entries : List (String × α)} (h : List.Forall₂ value.RestoresEntry members entries)
    {fuel : Nat} (enough : members.length < fuel) (rest : List Char) :
    readEntries value fuel false (membersTail members ++ '\x7d' :: rest) =
      .ok (entries, '\x7d' :: rest) := by
  induction h generalizing fuel with
  | nil =>
    obtain ⟨fuel, rfl⟩ := Nat.exists_eq_add_one_of_ne_zero (Nat.ne_zero_of_lt enough)
    rfl
  | @cons member entry members entries first _ ih =>
    obtain ⟨fuel, rfl⟩ := Nat.exists_eq_add_one_of_ne_zero (Nat.ne_zero_of_lt enough)
    obtain ⟨key, json⟩ := member
    obtain ⟨key', a⟩ := entry
    obtain ⟨rfl, restores⟩ := first
    rw [membersTail_cons, List.cons_append, List.append_assoc, List.append_assoc,
      readEntries_step restores (nextKey_later _ _), ih (Nat.lt_of_succ_lt_succ enough)]
    rfl

/-- **A map is restored** if its values are. -/
theorem aMap_restores {depth : Nat} (room : 0 < depth) {value : Reader α}
    {members : List (String × Json)} {entries : List (String × α)}
    (h : List.Forall₂ value.RestoresEntry members entries) :
    (aMap depth value).Restores (.object members) entries where
  starts := ⟨'\x7b', _, rfl, by decide, by decide⟩
  takes rest := by
    have entries_read : readEntries value ((membersChars members ++ '\x7d' :: rest).length + 1) true
        (membersChars members ++ '\x7d' :: rest) = .ok (entries, '\x7d' :: rest) := by
      cases h with
      | nil => rfl
      | @cons member entry members entries first others =>
        obtain ⟨key, json⟩ := member
        obtain ⟨key', a⟩ := entry
        obtain ⟨rfl, restores⟩ := first
        have enough := length_lt_length_membersChars (key', json) members rest
        generalize (membersChars (_ :: members) ++ '\x7d' :: rest).length = fuel at enough
        rw [membersChars_cons, List.append_assoc, List.append_assoc,
          readEntries_step restores (nextKey_first _ _), readEntries_tail others enough]
        rfl
    rw [object_chars_append]
    show (if depth = 0 then _ else readEntries value _ true _ >>= fun r => _) = _
    rw [if_neg (Nat.ne_of_gt room), entries_read]
    rfl

/-! ### Records -/

section

variable {σ : Type}

/-- The way of a draft along printed members: each is a member of the record that is not set yet,
and its value is restored onto the draft. -/
inductive Shape.Fills (shape : Shape σ) : σ → List (String × Json) → σ → Prop
  | nil (draft : σ) : Fills shape draft [] draft
  | cons {draft next final : σ} {key : String} {value : Json} {m : Member σ}
      {members : List (String × Json)}
      (known : (shape.members.find? fun m => m.key == key) = some m)
      (fresh : m.isSet draft = false) (restores : (m.read draft).Restores value next)
      (others : Fills shape next members final) : Fills shape draft ((key, value) :: members) final

theorem Member.needed_restores {key : String} {get : σ → Option α} {set : σ → α → σ}
    {reader : Reader α} {value : Json} {a : α} (h : reader.Restores value a) (draft : σ) :
    ((Member.needed key get set reader).read draft).Restores value (set draft a) := h.map _

theorem Member.free_restores {key : String} {get : σ → Option α} {set : σ → α → σ}
    {reader : Reader α} {value : Json} {a : α} (h : reader.Restores value a) (draft : σ) :
    ((Member.free key get set reader).read draft).Restores value (set draft a) := h.map _

namespace Shape

variable {shape : Shape σ}

theorem Fills.append {draft next final : σ} {members more : List (String × Json)}
    (h : shape.Fills draft members next) (h' : shape.Fills next more final) :
    shape.Fills draft (members ++ more) final := by
  induction h with
  | nil => exact h'
  | cons known fresh restores _ ih => exact .cons known fresh restores (ih h')

/-- One printed member is read onto the draft, and the others after it. -/
theorem readKeyed_step {draft next : σ} {key : String} {value : Json} {m : Member σ}
    (known : (shape.members.find? fun m => m.key == key) = some m) (fresh : m.isSet draft = false)
    (restores : (m.read draft).Restores value next) {first : Bool} {s rest : List Char}
    (key_read : nextKey first s = .ok (some key, ':' :: (value.chars ++ rest))) (fuel : Nat) :
    shape.readKeyed (fuel + 1) first draft s = shape.readKeyed fuel false next rest := by
  rw [readKeyed, key_read]
  dsimp only [bind, Except.bind]
  rw [known]
  dsimp only
  rw [fresh]
  show (m.read draft (value.chars ++ rest) >>= fun r => _) = _
  rw [restores.takes]
  rfl

/-- Where nothing is left out that has to be there, the end of the record is found. -/
theorem readKeyed_end {final : σ}
    (complete : (shape.members.find? fun m => m.required && !m.isSet final) = none) (fuel : Nat)
    (first : Bool) (rest : List Char) :
    shape.readKeyed (fuel + 1) first final ('\x7d' :: rest) = .ok (final, '\x7d' :: rest) := by
  have key_read : nextKey first ('\x7d' :: rest) = .ok (none, '\x7d' :: rest) := rfl
  rw [readKeyed, key_read]
  dsimp only [bind, Except.bind]
  rw [complete]
  rfl

/-- Members after the first are read up to the end of their record. -/
theorem readKeyed_fills {draft final : σ} {members : List (String × Json)}
    (fills : shape.Fills draft members final)
    (complete : (shape.members.find? fun m => m.required && !m.isSet final) = none) {fuel : Nat}
    (enough : members.length < fuel) (rest : List Char) :
    shape.readKeyed fuel false draft (membersTail members ++ '\x7d' :: rest) =
      .ok (final, '\x7d' :: rest) := by
  induction fills generalizing fuel with
  | nil final =>
    obtain ⟨fuel, rfl⟩ := Nat.exists_eq_add_one_of_ne_zero (Nat.ne_zero_of_lt enough)
    exact readKeyed_end complete fuel false rest
  | cons known fresh restores _ ih =>
    obtain ⟨fuel, rfl⟩ := Nat.exists_eq_add_one_of_ne_zero (Nat.ne_zero_of_lt enough)
    rw [membersTail_cons, List.cons_append, List.append_assoc, List.append_assoc,
      readKeyed_step known fresh restores (nextKey_later _ _)]
    exact ih complete (Nat.lt_of_succ_lt_succ enough)

/-- **A record is restored** from an object whose members fill its draft. -/
theorem read_restores {depth : Nat} (room : 0 < depth) {draft final : σ}
    {members : List (String × Json)} (fills : shape.Fills draft members final)
    (complete : (shape.members.find? fun m => m.required && !m.isSet final) = none) :
    (shape.read depth draft).Restores (.object members) final where
  starts := ⟨'\x7b', _, rfl, by decide, by decide⟩
  takes rest := by
    have members_read :
        shape.readKeyed ((membersChars members ++ '\x7d' :: rest).length + 1) true draft
          (membersChars members ++ '\x7d' :: rest) = .ok (final, '\x7d' :: rest) := by
      cases fills with
      | nil => exact readKeyed_end complete _ true rest
      | @cons _ next _ key value m members known fresh restores others =>
        have enough := length_lt_length_membersChars (key, value) members rest
        generalize (membersChars (_ :: members) ++ '\x7d' :: rest).length = fuel at enough
        rw [membersChars_cons, List.append_assoc, List.append_assoc,
          readKeyed_step known fresh restores (nextKey_first _ _)]
        exact readKeyed_fills others complete enough rest
    rw [object_chars_append]
    show (if depth = 0 then _ else shape.readKeyed _ true draft _ >>= fun r => _) = _
    rw [if_neg (Nat.ne_of_gt room), members_read]
    rfl

end Shape

end

/-! ## What the readers give -/

theorem Reader.Gives.map {reader : Reader α} {P : α → Prop} {Q : β → Prop} {f : α → β}
    (h : reader.Gives P) (carries : ∀ a, P a → Q (f a)) : (reader.map f).Gives Q := by
  intro s b rest read_eq
  obtain ⟨⟨a, s₁⟩, read_eq, given⟩ := bind_eq_ok.mp read_eq
  cases given
  exact carries a (h _ _ _ read_eq)

theorem Reader.gives_any (reader : Reader α) : reader.Gives fun _ => True :=
  fun _ _ _ _ => trivial

theorem Reader.Gives.readAll {reader : Reader α} {P : α → Prop} (h : reader.Gives P)
    {text : List Char} {a : α} (read : readAll reader text = .ok a) : P a := by
  unfold Json.readAll at read
  split at read
  · cases read
  · next a' rest read_eq =>
    split at read
    · cases read
      exact h _ _ _ read_eq
    · cases read

/-- A list that may not be opened is not read. -/
theorem aList_zero_gives (item : Reader α) (P : List α → Prop) : (aList 0 item).Gives P := by
  intro s as rest read_eq
  unfold aList at read_eq
  split at read_eq <;> cases read_eq

theorem aList_gives (depth : Nat) {item : Reader α} {P : α → Prop} (h : item.Gives P) :
    (aList depth item).Gives fun as => ∀ a ∈ as, P a := by
  intro s as rest read_eq
  unfold aList at read_eq
  split at read_eq
  · split at read_eq
    · cases read_eq
    · exact readListBody_gives h _ _ _ read_eq
  · cases read_eq

theorem readEntries_gives {value : Reader α} {P : α → Prop} (h : value.Gives P) (fuel : Nat)
    (first : Bool) :
    Reader.Gives (readEntries value fuel first) fun entries => ∀ entry ∈ entries, P entry.2 := by
  intro s entries rest read_eq
  induction fuel generalizing first s entries rest with
  | zero => cases read_eq
  | succ fuel ih =>
    rw [readEntries] at read_eq
    obtain ⟨⟨key?, s₁⟩, -, read_eq⟩ := bind_eq_ok.mp read_eq
    cases key? with
    | none =>
      cases read_eq
      exact List.forall_mem_nil _
    | some key =>
      obtain ⟨s₂, -, read_eq⟩ := bind_eq_ok.mp read_eq
      obtain ⟨⟨a, s₃⟩, value_eq, read_eq⟩ := bind_eq_ok.mp read_eq
      obtain ⟨⟨others, s₄⟩, rest_eq, read_eq⟩ := bind_eq_ok.mp read_eq
      cases read_eq
      exact List.forall_mem_cons.mpr ⟨h _ _ _ value_eq, ih _ _ _ _ rest_eq⟩

theorem aMap_gives (depth : Nat) {value : Reader α} {P : α → Prop} (h : value.Gives P) :
    (aMap depth value).Gives fun entries => ∀ entry ∈ entries, P entry.2 := by
  intro s entries rest read_eq
  unfold aMap at read_eq
  split at read_eq
  · split at read_eq
    · cases read_eq
    · obtain ⟨⟨entries', s₁⟩, entries_eq, read_eq⟩ := bind_eq_ok.mp read_eq
      obtain ⟨s₂, -, read_eq⟩ := bind_eq_ok.mp read_eq
      cases read_eq
      exact readEntries_gives h _ _ _ _ _ entries_eq
  · cases read_eq

section

variable {σ : Type} {shape : Shape σ} {P : σ → Prop}

/-- The readers of the members keep something true of the draft. -/
def Shape.Keeps (shape : Shape σ) (P : σ → Prop) : Prop :=
  ∀ m ∈ shape.members, ∀ draft, P draft → (m.read draft).Gives P

theorem Member.needed_gives {key : String} {get : σ → Option α} {set : σ → α → σ}
    {reader : Reader α} {Q : α → Prop} {draft : σ} (h : reader.Gives Q)
    (carries : ∀ a, Q a → P (set draft a)) :
    ((Member.needed key get set reader).read draft).Gives P := h.map carries

theorem Member.free_gives {key : String} {get : σ → Option α} {set : σ → α → σ}
    {reader : Reader α} {Q : α → Prop} {draft : σ} (h : reader.Gives Q)
    (carries : ∀ a, Q a → P (set draft a)) :
    ((Member.free key get set reader).read draft).Gives P := h.map carries

namespace Shape

/-- A record that may not be opened is not read. -/
theorem read_zero_gives (shape : Shape σ) (draft : σ) (P : σ → Prop) :
    (shape.read 0 draft).Gives P := by
  intro s final rest read_eq
  unfold Shape.read at read_eq
  split at read_eq <;> cases read_eq

/-- Members that come by their keys keep what each of them keeps. -/
theorem readKeyed_gives (keeps : shape.Keeps P) (fuel : Nat) (first : Bool) {draft : σ}
    (start : P draft) : Reader.Gives (shape.readKeyed fuel first draft) P := by
  intro s final rest read_eq
  induction fuel generalizing first draft s final rest with
  | zero => cases read_eq
  | succ fuel ih =>
    rw [readKeyed] at read_eq
    obtain ⟨⟨key?, s₁⟩, -, read_eq⟩ := bind_eq_ok.mp read_eq
    cases key? with
    | none =>
      dsimp only at read_eq
      split at read_eq
      · cases read_eq
      · cases read_eq
        exact start
    | some key =>
      dsimp only at read_eq
      split at read_eq
      · next m known =>
        split at read_eq
        · cases read_eq
        · obtain ⟨s₂, -, read_eq⟩ := bind_eq_ok.mp read_eq
          obtain ⟨⟨next, s₃⟩, member_eq, read_eq⟩ := bind_eq_ok.mp read_eq
          have kept := keeps m (List.mem_of_find?_eq_some known) draft start _ _ _ member_eq
          exact ih _ kept _ _ _ read_eq
      · obtain ⟨s₂, -, read_eq⟩ := bind_eq_ok.mp read_eq
        obtain ⟨s₃, -, read_eq⟩ := bind_eq_ok.mp read_eq
        exact ih _ start _ _ _ read_eq

/-- Members that come in order keep what each of them keeps. -/
theorem readListed_gives (keeps : shape.Keeps P) {members : List (Member σ)}
    (subset : members ⊆ shape.members) (index : Nat) (first : Bool) {draft : σ} (start : P draft) :
    Reader.Gives (shape.readListed members index first draft) P := by
  intro s final rest read_eq
  induction members generalizing index first draft s final rest with
  | nil =>
    cases read_eq
    exact start
  | cons m members ih =>
    obtain ⟨here, others⟩ := List.cons_subset.mp subset
    rw [readListed] at read_eq
    obtain ⟨⟨more, s₁⟩, -, read_eq⟩ := bind_eq_ok.mp read_eq
    dsimp only at read_eq
    split at read_eq
    · obtain ⟨⟨next, s₂⟩, member_eq, read_eq⟩ := bind_eq_ok.mp read_eq
      exact ih others _ _ (keeps m here draft start _ _ _ member_eq) _ _ _ read_eq
    · split at read_eq
      · cases read_eq
      · exact ih others _ _ start _ _ _ read_eq

/-- **A record keeps what its members keep**, whichever way it is written. -/
theorem read_gives (keeps : shape.Keeps P) (depth : Nat) {draft : σ} (start : P draft) :
    (shape.read depth draft).Gives P := by
  intro s final rest read_eq
  unfold Shape.read at read_eq
  split at read_eq
  · split at read_eq
    · cases read_eq
    · obtain ⟨⟨next, s₁⟩, members_eq, read_eq⟩ := bind_eq_ok.mp read_eq
      obtain ⟨s₂, -, read_eq⟩ := bind_eq_ok.mp read_eq
      cases read_eq
      exact readListed_gives keeps (List.Subset.refl _) _ _ start _ _ _ members_eq
  · split at read_eq
    · cases read_eq
    · obtain ⟨⟨next, s₁⟩, members_eq, read_eq⟩ := bind_eq_ok.mp read_eq
      obtain ⟨s₂, -, read_eq⟩ := bind_eq_ok.mp read_eq
      cases read_eq
      exact readKeyed_gives keeps _ _ start _ _ _ members_eq
  · cases read_eq

end Shape

end

end Intake.Json
