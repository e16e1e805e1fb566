import Mathlib.Data.List.Nodup
import Intake.Proofs.Schema.Fields

/-!
# Indices that are written and read again

An index that was read has mappings that take their own fields in order (`IndexTable.IsAccepted`). It
is restored from its mappings in any order (`readIndex_restores`). The order does not matter to who
looks a mapping up (`IndexTable.mapping?_of_perm`), nor to the text, where mappings are sorted
(`sortByKey_of_perm`).
-/

namespace Intake.Schema

open Intake.Json

/-! ## Mappings in order of their keys -/

theorem insertByKey_perm (entry : String × Mapping) (entries : List (String × Mapping)) :
    (insertByKey entry entries).Perm (entry :: entries) := by
  induction entries with
  | nil => exact .refl _
  | cons head rest ih =>
    unfold insertByKey
    split
    · exact .refl _
    · exact (ih.cons head).trans (.swap entry head rest)

theorem sortByKey_perm (entries : List (String × Mapping)) : (sortByKey entries).Perm entries := by
  induction entries with
  | nil => exact .refl _
  | cons head rest ih => exact (insertByKey_perm head _).trans (ih.cons head)

/-- No entry comes before one of a smaller key. -/
def InOrder (entries : List (String × Mapping)) : Prop :=
  entries.Pairwise fun first second => ¬ second.1 < first.1

theorem InOrder.insertByKey {entries : List (String × Mapping)} (h : InOrder entries)
    (entry : String × Mapping) : InOrder (insertByKey entry entries) := by
  induction entries with
  | nil => exact List.pairwise_singleton _ _
  | cons head rest ih =>
    obtain ⟨head_first, rest_sorted⟩ := List.pairwise_cons.mp h
    unfold Schema.insertByKey
    split
    · next smaller =>
      refine List.pairwise_cons.mpr ⟨fun other mem below => ?_, h⟩
      rcases List.mem_cons.mp mem with rfl | later
      · exact String.lt_irrefl _ (String.lt_trans below smaller)
      · exact head_first other later (String.lt_trans below smaller)
    · next not_smaller =>
      refine List.pairwise_cons.mpr ⟨fun other mem => ?_, ih rest_sorted⟩
      rcases List.mem_cons.mp ((insertByKey_perm entry rest).mem_iff.mp mem) with rfl | later
      · exact not_smaller
      · exact head_first other later

theorem sortByKey_inOrder (entries : List (String × Mapping)) : InOrder (sortByKey entries) := by
  induction entries with
  | nil => exact .nil
  | cons head rest ih => exact ih.insertByKey head

/-- **Entries of distinct keys are sorted the same**, whatever order they come in. -/
theorem sortByKey_of_perm {entries others : List (String × Mapping)}
    (distinct : (entries.map Prod.fst).Nodup) (perm : others.Perm entries) :
    sortByKey others = sortByKey entries := by
  have sorted_perm := (sortByKey_perm others).trans (perm.trans (sortByKey_perm entries).symm)
  refine sorted_perm.eq_of_pairwise ?_ (sortByKey_inOrder others) (sortByKey_inOrder entries)
  intro a b a_mem b_mem not_above not_below
  have same : a.1 = b.1 :=
    String.le_antisymm (String.not_lt.mp not_above) (String.not_lt.mp not_below)
  have a_mem : a ∈ entries := ((sortByKey_perm others).trans perm).mem_iff.mp a_mem
  have b_mem : b ∈ entries := (sortByKey_perm entries).mem_iff.mp b_mem
  exact List.inj_on_of_nodup_map distinct a_mem b_mem same

/-! ## Mappings in another order -/

namespace IndexTable

variable {table other : IndexTable}

/-- **Who looks a mapping up does not see their order.** -/
theorem mapping?_of_perm (distinct : (table.mappings.map Prod.fst).Nodup)
    (perm : other.mappings.Perm table.mappings) : other.mapping? = table.mapping? := by
  have distinct' : (other.mappings.map Prod.fst).Nodup := (perm.map _).nodup_iff.mpr distinct
  funext name
  refine Option.ext fun mapping => ?_
  rw [mapping?, mapping?, lookup_eq_some_iff_mem distinct', lookup_eq_some_iff_mem distinct,
    perm.mem_iff]

theorem IsSound.of_perm (sound : table.IsSound) (perm : other.mappings.Perm table.mappings) :
    other.IsSound where
  keyed := fun entry mem => sound.keyed entry (perm.mem_iff.mp mem)
  distinct := (perm.map _).nodup_iff.mpr sound.distinct
  indexed := fun entry mem => sound.indexed entry (perm.mem_iff.mp mem)

end IndexTable

/-- The same index, with its mappings in another order. -/
def Index.reordered (index : Index) {mappings : List (String × Mapping)}
    (perm : mappings.Perm index.mappings) : Index :=
  ⟨⟨index.name, mappings⟩, index.sound.of_perm perm⟩

/-! ## Indices that were read -/

namespace Mapping

/-- A mapping of fields holds them in their order. -/
theorem ofFields_eq_ok {name : String} {fields : List Field} {mapping : Mapping}
    (h : ofFields name fields = .ok mapping) : mapping.name = name ∧ mapping.fields = fields := by
  refine foldlM_induction (P := fun taken mapping => mapping.name = name ∧ mapping.fields = taken) h
    ⟨rfl, rfl⟩ ?_
  rintro _ field _ before next - added ⟨rfl, rfl⟩
  obtain ⟨-, -, rfl⟩ := withField_eq_ok_iff.mp added
  exact ⟨rfl, rfl⟩

end Mapping

/-- Each of the fields fits into so much room. -/
def AllFit (depth : Nat) (fields : List Field) : Prop := ∀ field ∈ fields, field.Fits depth

namespace IndexTable

/-- Each mapping takes its own fields, under its key, and they fit into so much room. -/
structure IsAccepted (depth : Nat) (table : IndexTable) : Prop where
  takes : ∀ entry ∈ table.mappings, Mapping.ofFields entry.1 entry.2.fields = .ok entry.2
  fits : ∀ entry ∈ table.mappings, AllFit depth entry.2.fields

theorem empty_isAccepted (depth : Nat) (name : String) : (empty name).IsAccepted depth where
  takes := nofun
  fits := nofun

/-- **An accepted table takes one more mapping.** -/
theorem IsAccepted.addMapping {depth : Nat} {table : IndexTable} (h : table.IsAccepted depth)
    {mapping : Mapping} (takes : Mapping.ofFields mapping.name mapping.fields = .ok mapping)
    (fits : AllFit depth mapping.fields) : (table.addMapping mapping).IsAccepted depth where
  takes := forall_mem_putEntry takes h.takes
  fits := forall_mem_putEntry fits h.fits

end IndexTable

theorem lastEntries_subset {α : Type} (entries : List (String × α)) :
    lastEntries entries ⊆ entries := by
  induction entries with
  | nil => exact List.nil_subset _
  | cons entry rest ih =>
    unfold lastEntries
    split
    · exact List.Subset.trans ih (List.subset_cons_self entry rest)
    · exact List.cons_subset_cons entry ih

theorem lastEntries_of_nodup {α : Type} {entries : List (String × α)}
    (distinct : (entries.map Prod.fst).Nodup) : lastEntries entries = entries := by
  induction entries with
  | nil => rfl
  | cons entry rest ih =>
    obtain ⟨fresh, distinct⟩ := List.nodup_cons.mp distinct
    rw [lastEntries, if_neg ?_, ih distinct]
    simpa using fun a (mem : (entry.1, a) ∈ rest) => fresh (List.mem_map.mpr ⟨_, mem, rfl⟩)

/-! ## Reading an index -/

/-- **The table that a draft makes is accepted**, if the fields that it knows fit. -/
theorem IndexDraft.table_isAccepted {depth : Nat} {draft : IndexDraft} {table : IndexTable}
    (fit : ∀ entries, draft.mappings = some entries → ∀ entry ∈ entries, AllFit depth entry.2)
    (h : draft.table = .ok table) : table.IsAccepted depth := by
  have all_fit : ∀ entry ∈ lastEntries (draft.mappings.getD []), AllFit depth entry.2 := by
    intro entry mem
    have mem := lastEntries_subset _ mem
    cases known : draft.mappings with
    | none =>
      rw [known] at mem
      cases mem
    | some entries =>
      rw [known] at mem
      exact fit entries known entry mem
  refine foldlM_induction (P := fun _ table => table.IsAccepted depth) h
    (IndexTable.empty_isAccepted depth _) ?_
  intro _ ⟨key, fields⟩ _ before next split_eq added accepted
  obtain ⟨mapping, made, given⟩ := bind_eq_ok.mp added
  cases given
  obtain ⟨rfl, rfl⟩ := Mapping.ofFields_eq_ok made
  have mem : (mapping.name, mapping.fields) ∈ lastEntries (draft.mappings.getD []) := by
    rw [split_eq]
    exact List.mem_append_right _ List.mem_cons_self
  exact accepted.addMapping made (all_fit _ mem)

theorem IndexDraft.index_eq_ok {draft : IndexDraft} {table : IndexTable}
    (made : draft.table = .ok table) :
    draft.index = .ok ⟨table, IndexDraft.table_isSound made⟩ := by
  unfold IndexDraft.index
  split
  · next other made_other =>
    obtain rfl := Except.ok.inj (made_other.symm.trans made)
    rfl
  · next impossible =>
    rw [impossible] at made
    cases made

theorem IndexDraft.table_of_index {draft : IndexDraft} {index : Index}
    (h : draft.index = .ok index) : draft.table = .ok index.toIndexTable := by
  unfold IndexDraft.index at h
  split at h
  · next made =>
    obtain rfl := Except.ok.inj h
    exact made
  · cases h

/-- **The mappings of an accepted table are put together again**, in the order that they come in. -/
theorem IndexDraft.table_of_mappings (name : String) {mappings : List (String × Mapping)}
    (distinct : (mappings.map Prod.fst).Nodup)
    (takes : ∀ entry ∈ mappings, Mapping.ofFields entry.1 entry.2.fields = .ok entry.2) :
    (IndexDraft.mk (some name) (some (mappings.map fun e => (e.1, e.2.fields)))).table =
      .ok ⟨name, mappings⟩ := by
  have keys_eq : (mappings.map fun e => (e.1, e.2.fields)).map Prod.fst =
      mappings.map Prod.fst := by simp
  unfold IndexDraft.table
  rw [Option.getD_some, Option.getD_some, lastEntries_of_nodup (keys_eq ▸ distinct)]
  -- the induction is general in the mappings that were put before
  suffices h : ∀ before, ((before ++ mappings).map Prod.fst).Nodup →
      (mappings.map fun e => (e.1, e.2.fields)).foldlM
        (fun table entry => do return table.addMapping (← Mapping.ofFields entry.1 entry.2))
        (IndexTable.mk name before) = Except.ok ⟨name, before ++ mappings⟩ from h [] distinct
  clear keys_eq distinct
  induction mappings with
  | nil =>
    intro before _
    rw [List.append_nil]
    rfl
  | cons entry rest ih =>
    intro before distinct
    obtain ⟨key, mapping⟩ := entry
    obtain ⟨entry_takes, rest_take⟩ := List.forall_mem_cons.mp takes
    obtain rfl : mapping.name = key := (Mapping.ofFields_eq_ok entry_takes).1
    have fresh : mapping.name ∉ before.map Prod.fst := by
      rw [List.map_append, List.nodup_append] at distinct
      exact fun known => distinct.2.2 _ known _ (List.mem_map_of_mem List.mem_cons_self) rfl
    have one_more : before ++ (mapping.name, mapping) :: rest =
        before ++ [(mapping.name, mapping)] ++ rest := by simp
    rw [one_more] at distinct ⊢
    rw [List.map_cons, List.foldlM_cons, entry_takes, ← ih rest_take _ distinct,
      ← putEntry_of_not_mem fresh]
    rfl

/-- The JSON value of an index whose mappings are written in the given order. -/
def indexJson (name : String) (mappings : List (String × Mapping)) : Json :=
  .object
    [("name", .string name),
      ("mappings", .object (mappings.map fun entry => (entry.1, entry.2.toJson)))]

/-- The fields of a mapping are restored, if they fit. -/
theorem readMappingFields_restores {depth : Nat} (room : 1 < depth) {mapping : Mapping}
    (fit : AllFit (depth - 2) mapping.fields) :
    (readMappingFields depth).Restores mapping.toJson mapping.fields := by
  have fields_restored : (readFields (depth - 1)).Restores
      (.array (fieldsToJson mapping.fields)) mapping.fields :=
    readFields_restores (Nat.sub_pos_of_lt room) fun field mem => readField_restores (fit field mem)
  have fills : (mappingShape (depth - 1)).Fills ⟨none⟩
      [("fields", .array (fieldsToJson mapping.fields))] ⟨some mapping.fields⟩ :=
    .cons rfl rfl (Member.free_restores fields_restored _) (.nil _)
  exact (Shape.read_restores (Nat.zero_lt_of_lt room) fills rfl).map _

/-- **An accepted index is restored** from its mappings, in whatever order they are written. -/
theorem readIndex_restores {depth : Nat} (room : 3 < depth) {index : Index}
    (accepted : index.IsAccepted (depth - 4)) {mappings : List (String × Mapping)}
    (perm : mappings.Perm index.mappings) :
    (readIndex depth).Restores (indexJson index.name mappings) (index.reordered perm) := by
  have entries : List.Forall₂ (readMappingFields (depth - 2)).RestoresEntry
      (mappings.map fun e => (e.1, e.2.toJson)) (mappings.map fun e => (e.1, e.2.fields)) := by
    rw [List.forall₂_map_left_iff, List.forall₂_map_right_iff, List.forall₂_same]
    intro entry mem
    exact ⟨rfl, readMappingFields_restores (by omega)
      (accepted.fits entry (perm.mem_iff.mp mem))⟩
  have fills : (indexShape (depth - 1)).Fills ⟨none, none⟩
      [("name", .string index.name),
        ("mappings", .object (mappings.map fun e => (e.1, e.2.toJson)))]
      ⟨some index.name, some (mappings.map fun e => (e.1, e.2.fields))⟩ := by
    refine .cons rfl rfl (Member.needed_restores (aString_restores index.name) _) ?_
    exact .cons rfl rfl (Member.free_restores (aMap_restores (by omega) entries) _) (.nil _)
  have record := Shape.read_restores (Nat.zero_lt_of_lt room) fills rfl
  have made := IndexDraft.table_of_mappings index.name
    ((perm.map _).nodup_iff.mpr index.sound.distinct)
    fun entry mem => accepted.takes entry (perm.mem_iff.mp mem)
  refine ⟨record.starts, fun rest => ?_⟩
  unfold readIndex
  rw [indexJson, record.takes]
  dsimp only [bind, Except.bind]
  rw [IndexDraft.index_eq_ok made]
  rfl

theorem readMappingFields_gives (depth : Nat) :
    (readMappingFields depth).Gives (AllFit (depth - 2)) := by
  have keeps : (mappingShape (depth - 1)).Keeps fun draft =>
      ∀ fields, draft.fields = some fields → AllFit (depth - 2) fields := by
    intro m mem draft kept
    obtain rfl := List.mem_singleton.mp mem
    refine Member.free_gives (readField_gives (depth - 1)).2 ?_
    intro fields fit fields' same
    obtain rfl := Option.some.inj same
    exact fit
  have start : ∀ fields, (MappingDraft.mk none).fields = some fields → AllFit (depth - 2) fields :=
    fun _ impossible => nomatch impossible
  refine (Shape.read_gives keeps depth start).map fun draft fit => ?_
  cases known : draft.fields with
  | none => exact List.forall_mem_nil _
  | some fields => exact fit fields known

/-- **An index that was read is accepted.** -/
theorem readIndex_gives (depth : Nat) :
    (readIndex depth).Gives fun index => index.IsAccepted (depth - 4) := by
  have keeps : (indexShape (depth - 1)).Keeps fun draft =>
      ∀ entries, draft.mappings = some entries → ∀ entry ∈ entries, AllFit (depth - 4) entry.2 := by
    intro m mem draft kept
    simp only [indexShape, List.mem_cons, List.not_mem_nil, or_false] at mem
    rcases mem with rfl | rfl
    · exact Member.needed_gives (Reader.gives_any _) fun _ _ => kept
    · refine Member.free_gives (aMap_gives _ (readMappingFields_gives (depth - 2))) ?_
      intro entries fit entries' same
      obtain rfl := Option.some.inj same
      exact fit
  have start : ∀ entries, (IndexDraft.mk none none).mappings = some entries →
      ∀ entry ∈ entries, AllFit (depth - 4) entry.2 := fun _ impossible => nomatch impossible
  intro s index rest read_eq
  obtain ⟨⟨draft, s₁⟩, draft_eq, read_eq⟩ := bind_eq_ok.mp read_eq
  have fit := Shape.read_gives keeps depth start _ _ _ draft_eq
  dsimp only at read_eq
  split at read_eq
  · next made =>
    cases read_eq
    exact IndexDraft.table_isAccepted fit (IndexDraft.table_of_index made)
  · cases read_eq

end Intake.Schema
