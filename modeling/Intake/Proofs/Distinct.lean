import Mathlib.Data.List.Induction
import Mathlib.Data.List.Nodup

/-!
# Distinct elements

`List.eraseDups` keeps the first occurrence of every element. Lists grow at their end, so most of what
is said here is about what comes after: a further element is added to the distinct ones, unless it is
there already (`eraseDups_append_singleton`), and elements that have not come up are made distinct by
themselves (`eraseDups_append_of_disjoint`).
-/

namespace Intake

theorem isEmpty_eraseDups {α : Type} [BEq α] (l : List α) : l.eraseDups.isEmpty = l.isEmpty := by
  cases l with
  | nil => rfl
  | cons a rest => rw [List.eraseDups_cons, List.isEmpty_cons, List.isEmpty_cons]

variable {α : Type} [BEq α] [LawfulBEq α]

/-- Distinct elements grow by one element, unless it is there already. -/
theorem eraseDups_append_singleton (l : List α) (a : α) :
    (l ++ [a]).eraseDups = if a ∈ l.eraseDups then l.eraseDups else l.eraseDups ++ [a] := by
  rw [List.eraseDups_append]
  by_cases h : a ∈ l <;> simp [List.removeAll, List.eraseDups_cons, h]

/-- **Distinct elements do not repeat.** -/
theorem nodup_eraseDups (l : List α) : l.eraseDups.Nodup := by
  induction l using List.reverseRec with
  | nil => exact List.nodup_nil
  | append_singleton l a ih =>
    rw [eraseDups_append_singleton]
    split
    · exact ih
    · next fresh => exact List.concat_eq_append ▸ ih.concat fresh

/-- Elements that do not repeat are distinct as they are. -/
theorem eraseDups_of_nodup {l : List α} (distinct : l.Nodup) : l.eraseDups = l := by
  induction l using List.reverseRec with
  | nil => rfl
  | append_singleton l a ih =>
    rw [← List.concat_eq_append, List.nodup_concat] at distinct
    rw [eraseDups_append_singleton, ih distinct.2, if_neg distinct.1]

/-- One element however often is distinct once. -/
theorem eraseDups_eq_singleton {l : List α} {a : α} (mem : a ∈ l) (only : ∀ b ∈ l, b = a) :
    l.eraseDups = [a] := by
  cases l with
  | nil => cases mem
  | cons b rest =>
    obtain ⟨rfl, others⟩ := List.forall_mem_cons.mp only
    have nothing_else : rest.filter (fun c => !c == b) = [] := by
      rw [List.filter_eq_nil_iff]
      intro c later
      simp [others c later]
    rw [List.eraseDups_cons, nothing_else, List.eraseDups_nil]

/-- **An element that came before adds nothing.** -/
theorem eraseDups_append_cons_of_mem {before : List α} {a : α} (known : a ∈ before)
    (after : List α) : (before ++ a :: after).eraseDups = (before ++ after).eraseDups := by
  have nothing_new : (a :: after).removeAll before = after.removeAll before := by
    simp [List.removeAll, known]
  rw [List.eraseDups_append, nothing_new, ← List.eraseDups_append]

/-- What comes after unrelated elements is made distinct by itself. -/
theorem eraseDups_append_of_disjoint {before after : List α}
    (disjoint : ∀ a ∈ after, a ∉ before) :
    (before ++ after).eraseDups = before.eraseDups ++ after.eraseDups := by
  have all_new : after.removeAll before = after :=
    List.filter_eq_self.mpr fun a mem => by simpa using disjoint a mem
  rw [List.eraseDups_append, all_new]

end Intake
