import Intake.Proofs.Document.Multimap

/-!
# Pushes in groups

When all values of a field are pushed before those of the next field, the document holds each field
with its distinct values, in the order of the fields (`pushedPairs_groupedPushes`). Pushing the
distinct values once more in the same order makes the same document
(`pushedPairs_distinctGroups`).
-/

namespace Intake

open Intake.Schema

/-- Fields with values, pushed field by field. -/
def groupedPushes (groups : List (Field × List String)) : List (Field × String) :=
  groups.flatMap fun group => group.2.map fun value => (group.1, value)

/-- The groups with the first of equal values only. -/
def distinctGroups (groups : List (Field × List String)) : List (Field × List String) :=
  groups.map fun group => (group.1, group.2.eraseDups)

theorem mem_groupedPushes {groups : List (Field × List String)} {push : Field × String} :
    push ∈ groupedPushes groups ↔ ∃ values, (push.1, values) ∈ groups ∧ push.2 ∈ values := by
  rw [groupedPushes, List.mem_flatMap]
  constructor
  · rintro ⟨⟨field, values⟩, grouped, mem⟩
    obtain ⟨value, here, rfl⟩ := List.mem_map.mp mem
    exact ⟨values, grouped, here⟩
  · rintro ⟨values, grouped, here⟩
    exact ⟨(push.1, values), grouped, List.mem_map.mpr ⟨push.2, here, rfl⟩⟩

/-- Making groups distinct pushes nothing else. -/
theorem mem_groupedPushes_distinctGroups {groups : List (Field × List String)}
    {push : Field × String} :
    push ∈ groupedPushes (distinctGroups groups) ↔ push ∈ groupedPushes groups := by
  rw [mem_groupedPushes, mem_groupedPushes]
  constructor
  · rintro ⟨_, grouped, here⟩
    obtain ⟨⟨field, values⟩, mem, same⟩ := List.mem_map.mp grouped
    obtain ⟨rfl, rfl⟩ := Prod.mk.inj same
    exact ⟨values, mem, List.mem_eraseDups.mp here⟩
  · rintro ⟨values, grouped, here⟩
    exact ⟨values.eraseDups, List.mem_map.mpr ⟨(push.1, values), grouped, rfl⟩,
      List.mem_eraseDups.mpr here⟩

/-! ## Apart from each other -/

theorem filter_name_eq_nil {pushes : List (Field × String)} {name : String}
    (absent : ∀ push ∈ pushes, push.1.name ≠ name) :
    (pushes.filter fun push => push.1.name == name) = [] := by
  rw [List.filter_eq_nil_iff]
  exact fun push mem same => absent push mem (beq_iff_eq.mp same)

variable {earlier later : List (Field × String)}

/-- Pushes for other names, before or after, leave the values of a name alone. -/
theorem pushedValues_append_left {name : String} (absent : ∀ push ∈ later, push.1.name ≠ name) :
    pushedValues (earlier ++ later) name = pushedValues earlier name := by
  rw [pushedValues, List.filter_append, filter_name_eq_nil absent, List.append_nil]
  rfl

theorem pushedValues_append_right {name : String}
    (absent : ∀ push ∈ earlier, push.1.name ≠ name) :
    pushedValues (earlier ++ later) name = pushedValues later name := by
  rw [pushedValues, List.filter_append, filter_name_eq_nil absent, List.nil_append]
  rfl

/-- **Pushes for names that have not come up are apart** from those before. -/
theorem pushedPairs_append_of_disjoint
    (disjoint : ∀ other ∈ earlier, ∀ push ∈ later, push.1.name ≠ other.1.name) :
    pushedPairs (earlier ++ later) = pushedPairs earlier ++ pushedPairs later := by
  have names_eq : pushedNames (earlier ++ later) = pushedNames earlier ++ pushedNames later := by
    rw [pushedNames, List.map_append, eraseDups_append_of_disjoint]
    · rfl
    · intro name mem known
      obtain ⟨push, later_mem, rfl⟩ := List.mem_map.mp mem
      obtain ⟨other, earlier_mem, same⟩ := List.mem_map.mp known
      exact disjoint other earlier_mem push later_mem same.symm
  have earlier_eq : (pushedNames earlier).map
      (fun name => (name, pushedValues (earlier ++ later) name)) = pushedPairs earlier := by
    refine List.map_congr_left fun name mem => ?_
    obtain ⟨other, earlier_mem, rfl⟩ := List.mem_map.mp (List.mem_eraseDups.mp mem)
    rw [pushedValues_append_left (disjoint other earlier_mem)]
  have later_eq : (pushedNames later).map
      (fun name => (name, pushedValues (earlier ++ later) name)) = pushedPairs later := by
    refine List.map_congr_left fun name mem => ?_
    obtain ⟨push, later_mem, rfl⟩ := List.mem_map.mp (List.mem_eraseDups.mp mem)
    rw [pushedValues_append_right fun other earlier_mem =>
      (disjoint other earlier_mem push later_mem).symm]
  rw [pushedPairs, names_eq, List.map_append, earlier_eq, later_eq]

/-! ## Group by group -/

theorem pushedValues_group (field : Field) (values : List String) :
    pushedValues (values.map fun value => (field, value)) field.name = values.eraseDups := by
  simp [pushedValues, List.filter_map, Function.comp_def]

/-- The values of a group are made distinct. -/
theorem pushedPairs_group (field : Field) {values : List String} (some_value : values ≠ []) :
    pushedPairs (values.map fun value => (field, value)) = [(field.name, values.eraseDups)] := by
  have name_eq : pushedNames (values.map fun value => (field, value)) = [field.name] := by
    obtain ⟨value, mem⟩ := List.exists_mem_of_ne_nil values some_value
    rw [pushedNames, List.map_map]
    refine eraseDups_eq_singleton (List.mem_map.mpr ⟨value, mem, rfl⟩) fun name name_mem => ?_
    obtain ⟨_, -, rfl⟩ := List.mem_map.mp name_mem
    rfl
  rw [pushedPairs, name_eq, List.map_singleton, pushedValues_group]

/-- A field that has a group of its own does not come up in the others. -/
theorem ne_of_mem_groupedPushes {field : Field} {groups : List (Field × List String)}
    (once : field.name ∉ groups.map fun group => group.1.name) :
    ∀ push ∈ groupedPushes groups, push.1.name ≠ field.name := by
  intro push mem same
  obtain ⟨values, grouped, -⟩ := mem_groupedPushes.mp mem
  exact once (List.mem_map.mpr ⟨(push.1, values), grouped, same⟩)

/-- **Fields with values, in order**: pushes in groups amount to the groups that are not empty. -/
theorem pushedPairs_groupedPushes {groups : List (Field × List String)}
    (distinct : (groups.map fun group => group.1.name).Nodup) :
    pushedPairs (groupedPushes groups) =
      (groups.filter fun group => !group.2.isEmpty).map fun group =>
        (group.1.name, group.2.eraseDups) := by
  induction groups with
  | nil => rfl
  | cons group rest ih =>
    obtain ⟨field, values⟩ := group
    obtain ⟨once, rest_distinct⟩ := List.nodup_cons.mp distinct
    rw [groupedPushes, List.flatMap_cons, ← groupedPushes, pushedPairs_append_of_disjoint,
      ih rest_distinct]
    · cases values with
      | nil => rfl
      | cons value others =>
        rw [pushedPairs_group field (List.cons_ne_nil value others)]
        rfl
    · intro other own
      obtain ⟨_, -, rfl⟩ := List.mem_map.mp own
      exact ne_of_mem_groupedPushes once

/-- The values of a field are those of its group. -/
theorem pushedValues_groupedPushes {groups : List (Field × List String)}
    (distinct : (groups.map fun group => group.1.name).Nodup) {field : Field}
    {values : List String} (grouped : (field, values) ∈ groups) :
    pushedValues (groupedPushes groups) field.name = values.eraseDups := by
  induction groups with
  | nil => cases grouped
  | cons group rest ih =>
    obtain ⟨once, rest_distinct⟩ := List.nodup_cons.mp distinct
    rw [groupedPushes, List.flatMap_cons, ← groupedPushes]
    rcases List.mem_cons.mp grouped with rfl | later
    · rw [pushedValues_append_left (ne_of_mem_groupedPushes once), pushedValues_group]
    · have other : group.1.name ≠ field.name := fun same =>
        once (List.mem_map.mpr ⟨(field, values), later, same.symm⟩)
      rw [pushedValues_append_right, ih rest_distinct later]
      intro push own
      obtain ⟨_, -, rfl⟩ := List.mem_map.mp own
      exact other

/-- **Distinct values make the same document.** -/
theorem pushedPairs_distinctGroups {groups : List (Field × List String)}
    (distinct : (groups.map fun group => group.1.name).Nodup) :
    pushedPairs (groupedPushes (distinctGroups groups)) = pushedPairs (groupedPushes groups) := by
  have same_names : ((distinctGroups groups).map fun group => group.1.name) =
      groups.map fun group => group.1.name := by
    rw [distinctGroups, List.map_map]
    rfl
  rw [pushedPairs_groupedPushes distinct, pushedPairs_groupedPushes (same_names ▸ distinct),
    distinctGroups, List.filter_map, List.map_map]
  simp only [Function.comp_def, isEmpty_eraseDups, eraseDups_of_nodup (nodup_eraseDups _)]

end Intake
