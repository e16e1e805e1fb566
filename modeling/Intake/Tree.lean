import Intake.Coercion

/-!
# Source trees

A source record is a tree. Its leaves are scalars, each with its text, and *handles*: values that have
no text, such as an open connection, of which only a description is known. Lists and records lie in
between; nulls say nothing.

`Tree.leaves` lists the leaves in document order and `Tree.reach` the nodes at the end of a path.
Lists are transparent: a path goes through each item of a list as if the list were not there.
-/

namespace Intake

open Intake.Schema

/-- A source record. -/
inductive Tree where
  | null
  | scalar (text : String)
  | list (items : List Tree)
  | record (members : List (String × Tree))
  | handle (description : String)
  deriving Repr, Inhabited

/-- A leaf of a tree. -/
inductive Leaf where
  | scalar (text : String)
  | handle (description : String)
  deriving DecidableEq, Repr

namespace Tree

/-! ## Trees from JSON -/

mutual

/-- The tree of a JSON value: numbers become the digits they were written with. -/
def ofJson : Json → Tree
  | .null => .null
  | .bool value => .scalar (boolText value)
  | .number value => .scalar value.text
  | .string value => .scalar value
  | .array items => .list (ofItems items)
  | .object members => .record (ofMembers members)

/-- The trees of some JSON values. -/
def ofItems : List Json → List Tree
  | [] => []
  | item :: rest => ofJson item :: ofItems rest

/-- The trees of an object's members. -/
def ofMembers : List (String × Json) → List (String × Tree)
  | [] => []
  | (key, value) :: rest => (key, ofJson value) :: ofMembers rest

end

/-! ## Leaves -/

mutual

/-- The leaves of a tree in document order. -/
def leaves : Tree → List Leaf
  | .null => []
  | .scalar text => [.scalar text]
  | .handle description => [.handle description]
  | .list items => itemLeaves items
  | .record members => memberLeaves members

/-- The leaves of some trees. -/
def itemLeaves : List Tree → List Leaf
  | [] => []
  | tree :: rest => tree.leaves ++ itemLeaves rest

/-- The leaves of a record's members. -/
def memberLeaves : List (String × Tree) → List Leaf
  | [] => []
  | (_, tree) :: rest => tree.leaves ++ memberLeaves rest

end

/-! ## Paths -/

mutual

/-- The nodes at the end of a path, in document order. Of several members with one key, the first
counts. -/
def reach : List String → Tree → List Tree
  | path, .list items => reachItems path items
  | [], tree => [tree]
  | key :: path, .record members => reachMember key path members
  | _ :: _, _ => []

/-- The nodes at the end of a path from each of some trees. -/
def reachItems : List String → List Tree → List Tree
  | _, [] => []
  | path, tree :: rest => reach path tree ++ reachItems path rest

/-- The nodes at the end of a path that goes on from the member of a key. -/
def reachMember : String → List String → List (String × Tree) → List Tree
  | _, _, [] => []
  | key, path, (k, tree) :: rest => if k = key then reach path tree else reachMember key path rest

end

/-- The leaves below the end of a path. -/
def leavesAt (path : List String) (tree : Tree) : List Leaf := (reach path tree).flatMap leaves

/-! ## Items and members one by one -/

theorem ofItems_eq_map (items : List Json) : ofItems items = items.map ofJson := by
  induction items <;> simp_all [ofItems]

theorem ofMembers_eq_map (members : List (String × Json)) :
    ofMembers members = members.map fun member => (member.1, ofJson member.2) := by
  induction members <;> simp_all [ofMembers]

theorem itemLeaves_eq_flatMap (items : List Tree) : itemLeaves items = items.flatMap leaves := by
  induction items <;> simp_all [itemLeaves]

theorem memberLeaves_eq_flatMap (members : List (String × Tree)) :
    memberLeaves members = members.flatMap fun member => member.2.leaves := by
  induction members <;> simp_all [memberLeaves]

theorem reachItems_eq_flatMap (path : List String) (items : List Tree) :
    reachItems path items = items.flatMap (reach path) := by
  induction items <;> simp_all [reachItems]

/-- **A path goes on from the first member of its key**, and ends where there is none. -/
theorem reachMember_eq (key : String) (path : List String) (members : List (String × Tree)) :
    reachMember key path members =
      match members.find? fun member => member.1 == key with
      | some member => reach path member.2
      | none => [] := by
  induction members with
  | nil => simp [reachMember]
  | cons head rest ih =>
    obtain ⟨k, tree⟩ := head
    by_cases h : k = key <;> simp [reachMember, h, ih]

/-! ## Walking the leaves for a field -/

/-- What a field makes of a handle: nothing, if it ignores malformed values, and otherwise an
error. -/
def refuseHandle (field : Field) (description : String) : Except IngestError Unit :=
  if field.ignoresMalformed then .ok ()
  else .error (.malformed field.name field.typeName description none)

/-- Visits leaves on behalf of a field and collects what the visits give. -/
def walk {α : Type} (field : Field) (visit : String → Except IngestError (List α)) :
    List Leaf → Except IngestError (List α)
  | [] => .ok []
  | .scalar text :: rest => do
    let found ← visit text
    let more ← walk field visit rest
    return found ++ more
  | .handle description :: rest => do
    refuseHandle field description
    walk field visit rest

/-- The texts of all scalars, for a field. -/
def flatten (field : Field) (tree : Tree) : Except IngestError (List String) :=
  walk field (fun text => .ok [text]) tree.leaves

/-- The typed values of all scalars, for a field; what is dropped is left out. -/
def convertAll (dates : Calendar.DatePolicy) (field : Field) (tree : Tree) :
    Except IngestError (List FieldValue) :=
  walk field (fun text => do return (← coerceTyped dates field text).toList) tree.leaves

end Tree

end Intake
