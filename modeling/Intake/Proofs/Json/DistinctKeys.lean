import Intake.Json.Reader
import Intake.Except

/-!
# Keys that do not repeat

A member whose key comes up again gives its value to the one before it. So in what `Json.read`
gives, no object has two members of one key, however deep it lies (`Json.read_distinctKeys`).

A reader is described by what it gives, whatever the text: `Json.Reader.Gives` goes through the
loops over items and members, and a value's nesting is the only induction.
-/

namespace Intake.Json

/-! ## Values without repeated keys -/

/-- No object in the value has two members of one key. -/
inductive DistinctKeys : Json → Prop
  | null : DistinctKeys .null
  | bool (value : Bool) : DistinctKeys (.bool value)
  | number (value : Numeral.Literal) : DistinctKeys (.number value)
  | string (value : String) : DistinctKeys (.string value)
  | array {items : List Json} (inner : ∀ item ∈ items, item.DistinctKeys) :
      DistinctKeys (.array items)
  | object {members : List (String × Json)} (distinct : (members.map Prod.fst).Nodup)
      (inner : ∀ member ∈ members, member.2.DistinctKeys) : DistinctKeys (.object members)

/-- Members of which none repeats a key, and whose values are such throughout. -/
structure AreDistinct (members : List (String × Json)) : Prop where
  keys : (members.map Prod.fst).Nodup
  inner : ∀ member ∈ members, member.2.DistinctKeys

theorem AreDistinct.object {members : List (String × Json)} (h : AreDistinct members) :
    (Json.object members).DistinctKeys := .object h.keys h.inner

theorem AreDistinct.singleton (key : String) {value : Json} (h : value.DistinctKeys) :
    AreDistinct [(key, value)] where
  keys := by simp
  inner := by simpa using h

theorem AreDistinct.putEntry {members : List (String × Json)} (h : AreDistinct members)
    (key : String) {value : Json} (inner : value.DistinctKeys) :
    AreDistinct (Intake.putEntry key value members) where
  keys := nodup_keys_putEntry h.keys
  inner := forall_mem_putEntry inner h.inner

/-! ## What readers give -/

/-- Whatever the reader takes off the front of a text has the property. -/
def Reader.Gives {α : Type} (reader : Reader α) (P : α → Prop) : Prop :=
  ∀ s a rest, reader s = .ok (a, rest) → P a

theorem readItems_gives {α : Type} {item : Reader α} {P : α → Prop} (h : Reader.Gives item P)
    (fuel : Nat) (first : Bool) :
    Reader.Gives (readItems item fuel first) fun items => ∀ a ∈ items, P a := by
  intro s items rest read_eq
  induction fuel generalizing first s items rest with
  | zero => cases read_eq
  | succ fuel ih =>
    rw [readItems] at read_eq
    obtain ⟨⟨more, s₁⟩, -, read_eq⟩ := bind_eq_ok.mp read_eq
    dsimp only at read_eq
    split at read_eq
    · obtain ⟨⟨a, s₂⟩, item_eq, read_eq⟩ := bind_eq_ok.mp read_eq
      obtain ⟨⟨as, s₃⟩, rest_eq, read_eq⟩ := bind_eq_ok.mp read_eq
      cases read_eq
      exact List.forall_mem_cons.mpr ⟨h _ _ _ item_eq, ih _ _ _ _ rest_eq⟩
    · cases read_eq
      exact fun _ none_there => absurd none_there List.not_mem_nil

theorem readListBody_gives {α : Type} {item : Reader α} {P : α → Prop} (h : Reader.Gives item P) :
    Reader.Gives (readListBody item) fun items => ∀ a ∈ items, P a := by
  intro s items rest read_eq
  obtain ⟨⟨as, s₁⟩, items_eq, read_eq⟩ := bind_eq_ok.mp read_eq
  obtain ⟨s₂, -, read_eq⟩ := bind_eq_ok.mp read_eq
  cases read_eq
  exact readItems_gives h _ _ _ _ _ items_eq

theorem readMembers_gives {value : Reader Json} (h : Reader.Gives value DistinctKeys) (fuel : Nat)
    (first : Bool) {before : List (String × Json)} (distinct : AreDistinct before) :
    Reader.Gives (readMembers false value fuel first before) AreDistinct := by
  intro s members rest read_eq
  induction fuel generalizing first before s members rest with
  | zero => cases read_eq
  | succ fuel ih =>
    rw [readMembers] at read_eq
    obtain ⟨⟨key?, s₁⟩, -, read_eq⟩ := bind_eq_ok.mp read_eq
    cases key? with
    | none =>
      cases read_eq
      exact distinct
    | some key =>
      obtain ⟨s₂, -, read_eq⟩ := bind_eq_ok.mp read_eq
      obtain ⟨⟨v, s₃⟩, value_eq, read_eq⟩ := bind_eq_ok.mp read_eq
      exact ih _ (distinct.putEntry key (h _ _ _ value_eq)) _ _ _ read_eq

theorem readObjectBody_gives {value : Reader Json} (h : Reader.Gives value DistinctKeys)
    (depth : Nat) : Reader.Gives (readObjectBody false depth value) DistinctKeys := by
  intro s object rest read_eq
  obtain ⟨⟨key?, s₁⟩, -, read_eq⟩ := bind_eq_ok.mp read_eq
  cases key? with
  | none =>
    obtain ⟨s₂, -, read_eq⟩ := bind_eq_ok.mp read_eq
    cases read_eq
    exact .object List.nodup_nil (by simp)
  | some key =>
    obtain ⟨s₂, -, read_eq⟩ := bind_eq_ok.mp read_eq
    dsimp only at read_eq
    split at read_eq
    · obtain ⟨⟨n, s₃⟩, -, read_eq⟩ := bind_eq_ok.mp read_eq
      obtain ⟨s₄, -, read_eq⟩ := bind_eq_ok.mp read_eq
      cases read_eq
      exact .number n
    · obtain ⟨⟨v, s₃⟩, value_eq, read_eq⟩ := bind_eq_ok.mp read_eq
      obtain ⟨⟨members, s₄⟩, members_eq, read_eq⟩ := bind_eq_ok.mp read_eq
      obtain ⟨s₅, -, read_eq⟩ := bind_eq_ok.mp read_eq
      cases read_eq
      have start := AreDistinct.singleton key (h _ _ _ value_eq)
      exact (readMembers_gives h _ _ start _ _ _ members_eq).object

/-- Scalars have no keys. -/
theorem readWith_gives {list object : Reader Json} (list_gives : Reader.Gives list DistinctKeys)
    (object_gives : Reader.Gives object DistinctKeys) :
    Reader.Gives (readWith list object) DistinctKeys := by
  intro s value rest read_eq
  unfold readWith at read_eq
  split at read_eq
  · cases read_eq
  · obtain ⟨s₁, -, read_eq⟩ := bind_eq_ok.mp read_eq
    cases read_eq
    exact .null
  · obtain ⟨s₁, -, read_eq⟩ := bind_eq_ok.mp read_eq
    cases read_eq
    exact .bool true
  · obtain ⟨s₁, -, read_eq⟩ := bind_eq_ok.mp read_eq
    cases read_eq
    exact .bool false
  · obtain ⟨⟨text, s₁⟩, -, read_eq⟩ := bind_eq_ok.mp read_eq
    cases read_eq
    exact .string text
  · exact list_gives _ _ _ read_eq
  · exact object_gives _ _ _ read_eq
  · split at read_eq
    · obtain ⟨⟨n, s₁⟩, -, read_eq⟩ := bind_eq_ok.mp read_eq
      cases read_eq
      exact .number n
    · cases read_eq

theorem readValue_gives (depth : Nat) : Reader.Gives (readValue false depth) DistinctKeys := by
  have too_deep : Reader.Gives
      (fun s => (.error (.ahead .tooDeep s) : Except Fault (Json × List Char))) DistinctKeys := by
    intro s value rest read_eq
    cases read_eq
  induction depth with
  | zero => exact readWith_gives too_deep too_deep
  | succ depth ih =>
    refine readWith_gives (fun s value rest read_eq => ?_) fun s => readObjectBody_gives ih depth _
    obtain ⟨⟨items, s₁⟩, items_eq, read_eq⟩ := bind_eq_ok.mp read_eq
    cases read_eq
    exact .array (readListBody_gives ih _ _ _ items_eq)

/-- **What is read has no repeated keys.** -/
theorem read_distinctKeys {text : String} {value : Json} (h : read text = .ok value) :
    value.DistinctKeys := by
  unfold read readAll at h
  split at h
  · cases h
  · next value' rest read_eq =>
    split at h
    · cases h
      exact readValue_gives maxDepth _ _ _ read_eq
    · cases h

end Intake.Json
