/-!
# Tables by key

A table keeps one value under each of its keys. What is put under a key takes the place of what stood
there (`putEntry`), and who looks up another key does not notice.

Some lists come with a table of the positions of their elements by name, so that an element is found
without going through the list. The two are changed one after the other and have to agree:
`IsIndexOf` says that they do, and `IsIndexOf.append` that they still do when both have grown by one
name.
-/

namespace Intake

section

variable {α : Type}

/-- Puts a value under a key. A key that is there already keeps its place and takes the new value; a
new one goes to the end. -/
def putEntry (key : String) (value : α) : List (String × α) → List (String × α)
  | [] => [(key, value)]
  | (k, a) :: rest =>
    if k = key then (k, value) :: rest else (k, a) :: putEntry key value rest

/-- **What was put under a key is found there.** -/
theorem lookup_putEntry_self (key : String) (value : α) (table : List (String × α)) :
    (putEntry key value table).lookup key = some value := by
  induction table with
  | nil => simp [putEntry]
  | cons entry rest ih =>
    obtain ⟨k, a⟩ := entry
    by_cases here : k = key
    · simp [putEntry, here]
    · have other : (key == k) = false := beq_eq_false_iff_ne.mpr fun e => here e.symm
      rw [putEntry, if_neg here, List.lookup_cons, other, ih]

/-- Other keys are left alone. -/
theorem lookup_putEntry_of_ne {key other : String} (value : α) (table : List (String × α))
    (ne : other ≠ key) : (putEntry key value table).lookup other = table.lookup other := by
  have apart : (other == key) = false := beq_eq_false_iff_ne.mpr ne
  induction table with
  | nil => simp [putEntry, List.lookup_cons, apart]
  | cons entry rest ih =>
    obtain ⟨k, a⟩ := entry
    by_cases here : k = key
    · simp [putEntry, List.lookup_cons, here, apart]
    · rw [putEntry, if_neg here, List.lookup_cons, List.lookup_cons, ih]

/-- A new key goes to the end. -/
theorem putEntry_of_not_mem {key : String} {value : α} {table : List (String × α)}
    (fresh : key ∉ table.map Prod.fst) : putEntry key value table = table ++ [(key, value)] := by
  induction table with
  | nil => rfl
  | cons entry rest ih =>
    rw [List.map_cons, List.mem_cons, not_or] at fresh
    rw [putEntry, if_neg fun same => fresh.1 same.symm, ih fresh.2, List.cons_append]

/-- The keys grow by the one that is put, unless it is there already. -/
theorem keys_putEntry (key : String) (value : α) (table : List (String × α)) :
    (putEntry key value table).map Prod.fst =
      if key ∈ table.map Prod.fst then table.map Prod.fst else table.map Prod.fst ++ [key] := by
  induction table with
  | nil => simp [putEntry]
  | cons entry rest ih =>
    obtain ⟨k, a⟩ := entry
    by_cases here : k = key
    · simp [putEntry, here]
    · have other : ¬ key = k := fun e => here e.symm
      rw [putEntry, if_neg here, List.map_cons, ih, List.map_cons]
      simp only [List.mem_cons, other, false_or]
      split <;> rfl

/-- **Distinct keys stay distinct.** -/
theorem nodup_keys_putEntry {key : String} {value : α} {table : List (String × α)}
    (distinct : (table.map Prod.fst).Nodup) : ((putEntry key value table).map Prod.fst).Nodup := by
  rw [keys_putEntry]
  split
  · exact distinct
  · next fresh =>
    refine List.nodup_append.mpr ⟨distinct, by simp, fun k mem k' mem' => ?_⟩
    obtain rfl := List.mem_singleton.mp mem'
    exact fun same => fresh (same ▸ mem)

/-- What holds of the value that is put and of all entries before holds of all entries after. -/
theorem forall_mem_putEntry {P : String × α → Prop} {key : String} {value : α}
    {table : List (String × α)} (new : P (key, value)) (old : ∀ entry ∈ table, P entry) :
    ∀ entry ∈ putEntry key value table, P entry := by
  induction table with
  | nil => exact List.forall_mem_singleton.mpr new
  | cons head rest ih =>
    obtain ⟨first, others⟩ := List.forall_mem_cons.mp old
    unfold putEntry
    split
    · next same => exact List.forall_mem_cons.mpr ⟨same ▸ new, others⟩
    · exact List.forall_mem_cons.mpr ⟨first, ih others⟩

/-- Among distinct keys, what is put takes the place of what stood under its key. -/
theorem mem_putEntry_of_nodup {key : String} {value : α} {table : List (String × α)}
    (distinct : (table.map Prod.fst).Nodup) {entry : String × α}
    (h : entry ∈ putEntry key value table) :
    entry = (key, value) ∨ entry.1 ≠ key ∧ entry ∈ table := by
  induction table with
  | nil => exact .inl (List.mem_singleton.mp h)
  | cons head rest ih =>
    obtain ⟨k, a⟩ := head
    obtain ⟨fresh, rest_distinct⟩ := List.nodup_cons.mp distinct
    by_cases here : k = key
    · rw [putEntry, if_pos here, here] at h
      rcases List.mem_cons.mp h with rfl | later
      · exact .inl rfl
      · have inside : entry.1 ∈ rest.map Prod.fst := List.mem_map_of_mem later
        refine .inr ⟨fun e => fresh ?_, List.mem_cons_of_mem _ later⟩
        rwa [here, ← e]
    · rw [putEntry, if_neg here] at h
      rcases List.mem_cons.mp h with rfl | later
      · exact .inr ⟨here, List.mem_cons_self⟩
      · obtain put | ⟨other, old⟩ := ih rest_distinct later
        · exact .inl put
        · exact .inr ⟨other, List.mem_cons_of_mem _ old⟩

/-- Nothing is found under a key that is not there. -/
theorem lookup_eq_none_iff_not_mem {key : String} {table : List (String × α)} :
    table.lookup key = none ↔ key ∉ table.map Prod.fst := by
  rw [List.lookup_eq_none_iff]
  constructor
  · rintro absent known
    obtain ⟨entry, mem, rfl⟩ := List.mem_map.mp known
    simpa using absent entry mem
  · intro absent entry mem
    simpa using fun same => absent (List.mem_map.mpr ⟨entry, mem, same.symm⟩)

/-- **What is found under a key is what stands there**, if no key comes up twice. -/
theorem lookup_eq_some_iff_mem {table : List (String × α)} (distinct : (table.map Prod.fst).Nodup)
    {key : String} {value : α} : table.lookup key = some value ↔ (key, value) ∈ table := by
  rw [List.lookup_eq_some_iff]
  constructor
  · rintro ⟨before, after, rfl, -⟩
    simp
  · intro mem
    obtain ⟨before, after, rfl⟩ := List.append_of_mem mem
    refine ⟨before, after, rfl, fun entry earlier => ?_⟩
    rw [List.map_append, List.nodup_append] at distinct
    have apart := distinct.2.2 _ (List.mem_map_of_mem earlier) key (by simp)
    simpa using Ne.symm apart

end

/-! ## Positions by name -/

/-- The table finds every name at its position in the list, and finds no other name. -/
def IsIndexOf (positions : List (String × Nat)) (names : List String) : Prop :=
  ∀ name position, positions.lookup name = some position ↔ names[position]? = some name

namespace IsIndexOf

variable {positions : List (String × Nat)} {names : List String}

theorem nil : IsIndexOf [] [] := by
  intro name position
  simp

/-- A name that is not found is not in the list. -/
theorem lookup_eq_none_iff (h : IsIndexOf positions names) {name : String} :
    positions.lookup name = none ↔ name ∉ names := by
  rw [List.mem_iff_getElem?, not_exists, Option.eq_none_iff_forall_not_mem]
  exact forall_congr' fun position => not_congr (h name position)

/-- No name comes up twice: it is found at one position. -/
theorem nodup (h : IsIndexOf positions names) : names.Nodup := by
  rw [List.Nodup, List.pairwise_iff_getElem]
  intro i j i_lt j_lt lt same
  have at_i := (h names[i] i).mpr (List.getElem?_eq_getElem i_lt)
  have at_j := (h names[i] j).mpr (same ▸ List.getElem?_eq_getElem j_lt)
  exact Nat.ne_of_lt lt (Option.some.inj (at_i.symm.trans at_j))

/-- **One more name.** The table learns the position at which the list is about to end. -/
theorem append (h : IsIndexOf positions names) {name : String} (fresh : name ∉ names) :
    IsIndexOf (putEntry name names.length positions) (names ++ [name]) := by
  intro other position
  by_cases same : other = name
  · subst same
    rw [lookup_putEntry_self, Option.some.injEq]
    constructor
    · rintro rfl
      simp
    · intro found
      rcases Nat.lt_trichotomy position names.length with inside | last | outside
      · rw [List.getElem?_append_left inside] at found
        exact absurd (List.mem_of_getElem? found) fresh
      · exact last.symm
      · rw [List.getElem?_eq_none (by rw [List.length_append]; exact outside)] at found
        cases found
  · rw [lookup_putEntry_of_ne _ _ same, h other position]
    rcases Nat.lt_trichotomy position names.length with inside | last | outside
    · rw [List.getElem?_append_left inside]
    · subst last
      simpa using fun e => same e.symm
    · rw [List.getElem?_eq_none (Nat.le_of_lt outside),
        List.getElem?_eq_none (by rw [List.length_append]; exact outside)]

/-- The positions of distinct names, counted off. -/
theorem zipIdx (distinct : names.Nodup) : IsIndexOf names.zipIdx names := by
  have keys_eq : names.zipIdx.map Prod.fst = names := by simp
  intro name position
  rw [lookup_eq_some_iff_mem (keys_eq.symm ▸ distinct), List.mk_mem_zipIdx_iff_getElem?]

end IsIndexOf

/-- Positions that are counted off go on with the next one. -/
theorem putEntry_zipIdx {name : String} {names : List String} (fresh : name ∉ names) :
    putEntry name names.length names.zipIdx = (names ++ [name]).zipIdx := by
  rw [putEntry_of_not_mem (by simpa using fresh), List.zipIdx_append]
  simp

end Intake
