import Intake.Binding
import Intake.Proofs.Distinct

/-!
# Bindings as reverse indices

Declarations say from which path a field is read; a binding says which fields a path feeds. The
binding is built one declaration at a time, and after each it is the reverse index of those so far
(`reverseIndex`): the distinct paths in the order in which they came, each with the definitions of
the distinct names that were declared for it. The table of slots takes part in the invariant
(`BoundPaths.Holds`), as a declaration trusts the slot that it finds there: every path has to be found
in the slot of its own binding. So a derived binding is the reverse index of all declarations, or the
fault of the first that has one is the answer (`Binding.derive_eq`).
-/

namespace Intake

open Intake.Schema

/-! ## Definitions by name -/

namespace Schema.Mapping

variable {mapping : Mapping}

/-- The definitions of the known names among some names, in order. -/
def definitions (mapping : Mapping) (names : List String) : List Field :=
  names.filterMap mapping.get?

section

variable (indexed : mapping.Indexed)

include indexed

theorem Indexed.name_mem_definitions {names : List String} {field : Field}
    (found : mapping.get? field.name = some field) :
    (mapping.definitions names).any (fun f => f.name == field.name) = true ↔
      field.name ∈ names := by
  rw [List.any_eq_true]
  constructor
  · rintro ⟨f, defined, same⟩
    obtain ⟨name, mem, name_found⟩ := List.mem_filterMap.mp defined
    rw [← beq_iff_eq.mp same, (indexed.get?_eq_some_iff.mp name_found).2]
    exact mem
  · intro mem
    exact ⟨field, List.mem_filterMap.mpr ⟨field.name, mem, found⟩, by simp⟩

/-- **A definition is added** to those of some names unless its name is among them. -/
theorem Indexed.addDistinct_definitions {field : Field} (found : mapping.get? field.name = some field)
    (names : List String) :
    addDistinct field (mapping.definitions names) =
      mapping.definitions (if field.name ∈ names then names else names ++ [field.name]) := by
  unfold addDistinct
  by_cases known : field.name ∈ names
  · rw [if_pos ((indexed.name_mem_definitions found).mpr known), if_pos known]
  · rw [if_neg (mt (indexed.name_mem_definitions found).mp known), if_neg known]
    simp [definitions, found]

/-- All names are known, so each has its definition. -/
theorem Indexed.map_some_definitions {names : List String}
    (known : ∀ name ∈ names, mapping.contains name = true) :
    (mapping.definitions names).map some = names.map mapping.get? := by
  induction names with
  | nil => rfl
  | cons name rest ih =>
    obtain ⟨here, later⟩ := List.forall_mem_cons.mp known
    obtain ⟨field, found⟩ := indexed.contains_iff_exists.mp here
    have tail := ih later
    simp only [definitions] at tail ⊢
    rw [List.filterMap_cons_some found, List.map_cons, List.map_cons, tail, found]

end

/-- What is wrong with a declaration, if anything is. The field is looked up before the path is
looked at. -/
def fault? (mapping : Mapping) (declaration : String × String) : Option IngestError :=
  if mapping.contains declaration.1 then
    if declaration.2 = "" then some (.config (.emptyPath declaration.1)) else none
  else some (.unknownField declaration.1 mapping.name)

theorem fault?_eq_none_iff {declaration : String × String} :
    mapping.fault? declaration = none ↔
      mapping.contains declaration.1 = true ∧ declaration.2 ≠ "" := by
  unfold fault?
  by_cases known : mapping.contains declaration.1 = true
  · by_cases empty : declaration.2 = "" <;> simp [known, empty]
  · simp [known]

theorem fault?_eq_some_iff {declaration : String × String} {error : IngestError} :
    mapping.fault? declaration = some error ↔
      mapping.contains declaration.1 = false ∧ error = .unknownField declaration.1 mapping.name ∨
        mapping.contains declaration.1 = true ∧ declaration.2 = "" ∧
          error = .config (.emptyPath declaration.1) := by
  unfold fault?
  by_cases known : mapping.contains declaration.1 = true
  · by_cases empty : declaration.2 = ""
    · simpa [known, empty] using eq_comm
    · simp [known, empty]
  · simpa [known] using eq_comm

end Schema.Mapping

namespace Schema.Index

/-- There is no mapping for a type just if it has none of its own and there is no default one. -/
theorem resolve_eq_error_iff {index : Index} {docType : String} {error : IngestError} :
    index.resolve docType = .error error ↔
      index.mapping? docType = none ∧ index.defaultMapping? = none ∧
        error = .unknownMapping index.name docType := by
  unfold IndexTable.resolve
  cases index.mapping? docType with
  | some mapping => simp
  | none =>
    cases index.defaultMapping? with
    | some mapping => simp
    | none => simpa using eq_comm

end Schema.Index

/-! ## The reverse index -/

/-- The distinct paths of declarations, by their first declaration. -/
def declaredPaths (declared : List (String × String)) : List String :=
  (declared.map Prod.snd).eraseDups

/-- The distinct names that are declared for a path, by their first declaration for it. -/
def declaredNames (declared : List (String × String)) (path : String) : List String :=
  ((declared.filter fun declaration => declaration.2 == path).map Prod.fst).eraseDups

/-- The declared paths, each with the definitions of the names that are declared for it. -/
def reverseIndex (mapping : Mapping) (declared : List (String × String)) : List PathBinding :=
  (declaredPaths declared).map fun path =>
    ⟨path, mapping.definitions (declaredNames declared path)⟩

theorem declaredPaths_append_singleton (declared : List (String × String)) (name path : String) :
    declaredPaths (declared ++ [(name, path)]) =
      if path ∈ declaredPaths declared then declaredPaths declared
      else declaredPaths declared ++ [path] := by
  rw [declaredPaths, List.map_append, List.map_singleton, eraseDups_append_singleton]
  rfl

theorem declaredNames_append_self (declared : List (String × String)) (name path : String) :
    declaredNames (declared ++ [(name, path)]) path =
      if name ∈ declaredNames declared path then declaredNames declared path
      else declaredNames declared path ++ [name] := by
  have last : [(name, path)].filter (fun declaration => declaration.2 == path) =
      [(name, path)] := by simp
  rw [declaredNames, List.filter_append, last, List.map_append, List.map_singleton,
    eraseDups_append_singleton]
  rfl

theorem declaredNames_append_of_ne {path other : String} (declared : List (String × String))
    (name : String) (ne : other ≠ path) :
    declaredNames (declared ++ [(name, path)]) other = declaredNames declared other := by
  have last : [(name, path)].filter (fun declaration => declaration.2 == other) = [] := by
    simpa using fun e => ne e.symm
  rw [declaredNames, List.filter_append, last, List.append_nil]
  rfl

/-- No name is declared for a path that does not come up. -/
theorem declaredNames_of_not_mem {declared : List (String × String)} {path : String}
    (absent : path ∉ declaredPaths declared) : declaredNames declared path = [] := by
  have none_left : declared.filter (fun declaration => declaration.2 == path) = [] := by
    rw [List.filter_eq_nil_iff]
    intro declaration mem same
    refine absent (List.mem_eraseDups.mpr (List.mem_map.mpr ⟨declaration, mem, ?_⟩))
    exact beq_iff_eq.mp same
  rw [declaredNames, none_left]
  rfl

theorem mem_declaredNames {declared : List (String × String)} {name path : String} :
    name ∈ declaredNames declared path ↔ (name, path) ∈ declared := by
  simp [declaredNames]

/-! ## One declaration -/

namespace BoundPaths

variable {bound : BoundPaths} {paths : List String} {fields : String → List Field}

/-- The bound paths are the given ones, each with its fields, and the table of slots finds them. -/
structure Holds (bound : BoundPaths) (paths : List String) (fields : String → List Field) :
    Prop where
  paths_eq : bound.paths = paths.map fun path => ⟨path, fields path⟩
  indexed : IsIndexOf bound.slots paths

/-- **The slot of a path.** A path that is bound has one; another one gets it at the end, and feeds
nothing yet. -/
theorem Holds.slotOf (h : bound.Holds paths fields) {path : String}
    (idle : path ∉ paths → fields path = []) :
    (if path ∈ paths then paths else paths ++ [path])[(bound.slotOf path).1]? = some path ∧
      (bound.slotOf path).2.Holds (if path ∈ paths then paths else paths ++ [path]) fields := by
  unfold BoundPaths.slotOf
  cases found : bound.slots.lookup path with
  | some slot =>
    have here := (h.indexed path slot).mp found
    have known : path ∈ paths := List.mem_of_getElem? here
    rw [if_pos known]
    exact ⟨here, h⟩
  | none =>
    have fresh := h.indexed.lookup_eq_none_iff.mp found
    have last : (bound.paths ++ [PathBinding.mk path []]).length - 1 = paths.length := by
      simp [h.paths_eq]
    dsimp only
    rw [if_neg fresh, last]
    refine ⟨by simp, ?_, h.indexed.append fresh⟩
    rw [List.map_append, ← h.paths_eq, List.map_singleton, idle fresh]

/-- **One more field for a path.** The paths stay where they are. -/
theorem Holds.feedFrom (h : bound.Holds paths fields) {slot : Nat} {path : String}
    (here : paths[slot]? = some path) (field : Field) :
    (bound.feedFrom slot field).Holds paths
      fun p => if p = path then addDistinct field (fields p) else fields p where
  paths_eq := by
    refine List.ext_getElem? fun i => ?_
    rw [BoundPaths.feedFrom, h.paths_eq, List.getElem?_modify, List.getElem?_map, List.getElem?_map]
    cases at_i : paths[i]? with
    | none => rfl
    | some p =>
      -- the slot and the path single out the same binding
      have same_iff : slot = i ↔ p = path := by
        constructor
        · rintro rfl
          exact Option.some.inj (at_i.symm.trans here)
        · rintro rfl
          have at_slot := (h.indexed p slot).mpr here
          exact Option.some.inj (at_slot.symm.trans ((h.indexed p i).mpr at_i))
      by_cases same : slot = i
      · simp [same, same_iff.mp same]
      · simp [same, mt same_iff.mpr same]
  indexed := h.indexed

/-- The bound paths are the reverse index of declarations. -/
def Reverses (bound : BoundPaths) (mapping : Mapping) (declared : List (String × String)) : Prop :=
  bound.Holds (declaredPaths declared) fun path => mapping.definitions (declaredNames declared path)

theorem empty_reverses (mapping : Mapping) : empty.Reverses mapping [] where
  paths_eq := rfl
  indexed := .nil

theorem Reverses.paths_eq {mapping : Mapping} {declared : List (String × String)}
    (h : bound.Reverses mapping declared) : bound.paths = reverseIndex mapping declared :=
  Holds.paths_eq h

/-- **One declaration.** Binding a definition to a path turns the reverse index of the declarations
so far into that of one more. -/
theorem Reverses.bindPath {mapping : Mapping} (indexed : mapping.Indexed)
    {declared : List (String × String)} (h : bound.Reverses mapping declared) {field : Field}
    (found : mapping.get? field.name = some field) (path : String) :
    (bound.bindPath field path).Reverses mapping (declared ++ [(field.name, path)]) := by
  have idle (fresh : path ∉ declaredPaths declared) :
      mapping.definitions (declaredNames declared path) = [] := by
    rw [declaredNames_of_not_mem fresh]
    rfl
  obtain ⟨here, slotted⟩ := Holds.slotOf h idle
  have fed := slotted.feedFrom here field
  rw [← declaredPaths_append_singleton declared field.name path] at fed
  have fields_eq : (fun p => if p = path then
      addDistinct field (mapping.definitions (declaredNames declared p))
        else mapping.definitions (declaredNames declared p)) =
      fun p => mapping.definitions (declaredNames (declared ++ [(field.name, path)]) p) := by
    funext p
    by_cases same : p = path
    · subst same
      rw [if_pos rfl, declaredNames_append_self, indexed.addDistinct_definitions found]
    · rw [if_neg same, declaredNames_append_of_ne declared field.name same]
  rw [fields_eq] at fed
  exact fed

end BoundPaths

namespace Binding

variable {mapping : Mapping} (indexed : mapping.Indexed)

include indexed

/-- **One declaration** is answered with its fault, or adds itself to the reverse index. -/
theorem declare_reverses {bound : BoundPaths} {declared : List (String × String)}
    (h : bound.Reverses mapping declared) (declaration : String × String) :
    match mapping.fault? declaration with
    | some error => declare mapping bound declaration = .error error
    | none => ∃ next, declare mapping bound declaration = .ok next ∧
        next.Reverses mapping (declared ++ [declaration]) := by
  obtain ⟨name, path⟩ := declaration
  cases known : mapping.get? name with
  | none =>
    have unknown : mapping.contains name = false := by
      rw [← Bool.not_eq_true, indexed.contains_iff_exists, known]
      nofun
    simp [Mapping.fault?, unknown, declare, Mapping.require, known, bind, Except.bind]
  | some field =>
    obtain ⟨mem, rfl⟩ := indexed.get?_eq_some_iff.mp known
    have contained := indexed.contains_iff_exists.mpr ⟨field, known⟩
    by_cases empty : path = ""
    · simp [Mapping.fault?, contained, empty, declare, Mapping.require, known, bind, Except.bind]
    · simpa [Mapping.fault?, contained, empty, declare, Mapping.require, known, bind, Except.bind]
        using h.bindPath indexed known path

/-- **All declarations** are answered with the first fault among them, or give the reverse index. -/
theorem foldlM_declare {bound : BoundPaths} {before : List (String × String)}
    (h : bound.Reverses mapping before) (after : List (String × String)) :
    (after.foldlM (declare mapping) bound).map (·.paths) =
      match after.findSome? mapping.fault? with
      | some error => .error error
      | none => .ok (reverseIndex mapping (before ++ after)) := by
  induction after generalizing bound before with
  | nil =>
    rw [List.append_nil, ← h.paths_eq]
    rfl
  | cons declaration rest ih =>
    have step := declare_reverses indexed h declaration
    rw [List.foldlM_cons, List.findSome?_cons]
    cases fault : mapping.fault? declaration with
    | some error =>
      rw [fault] at step
      rw [step]
      rfl
    | none =>
      rw [fault] at step
      obtain ⟨next, taken, reverses⟩ := step
      have rest_eq := ih reverses
      rw [List.append_assoc, List.singleton_append] at rest_eq
      rw [taken]
      exact rest_eq

omit indexed

/-- **What is derived**: the mapping is resolved first, then the declarations are gone through. -/
theorem derive_eq (index : Index) (docType : String) (associations : List (String × String))
    (identity : List String) :
    derive index docType associations identity =
      match index.resolve docType with
      | .error error => .error error
      | .ok mapping =>
        match (declarations associations identity).findSome? mapping.fault? with
        | some error => .error error
        | none => .ok ⟨index.name, mapping.name,
            reverseIndex mapping (declarations associations identity)⟩ := by
  unfold derive
  cases resolved : index.resolve docType with
  | error error => rfl
  | ok mapping =>
    have run := foldlM_declare (index.sound.indexed_of_resolve resolved)
      (BoundPaths.empty_reverses mapping) (declarations associations identity)
    rw [List.nil_append] at run
    dsimp only
    show (List.foldlM (declare mapping) .empty (declarations associations identity) >>= _) = _
    cases ran : (declarations associations identity).foldlM (declare mapping) .empty with
    | error error =>
      rw [ran] at run
      split at run
      · cases run
        rfl
      · cases run
    | ok bound =>
      rw [ran] at run
      split at run
      · cases run
      · have paths_eq := Except.ok.inj run
        rw [← paths_eq]
        rfl

theorem derive_eq_error_iff {index : Index} {docType : String}
    {associations : List (String × String)} {identity : List String} {error : IngestError} :
    derive index docType associations identity = .error error ↔
      index.resolve docType = .error error ∨ ∃ mapping, index.resolve docType = .ok mapping ∧
        (declarations associations identity).findSome? mapping.fault? = some error := by
  rw [derive_eq]
  cases index.resolve docType with
  | error other => simp
  | ok mapping =>
    dsimp only
    cases fault : (declarations associations identity).findSome? mapping.fault? <;> simp [fault]

theorem derive_eq_ok_iff {index : Index} {docType : String}
    {associations : List (String × String)} {identity : List String} {binding : Binding} :
    derive index docType associations identity = .ok binding ↔
      ∃ mapping, index.resolve docType = .ok mapping ∧
        (∀ declaration ∈ declarations associations identity,
          mapping.contains declaration.1 = true ∧ declaration.2 ≠ "") ∧
        binding = ⟨index.name, mapping.name,
          reverseIndex mapping (declarations associations identity)⟩ := by
  rw [derive_eq]
  cases index.resolve docType with
  | error other => simp
  | ok mapping =>
    dsimp only
    have faultless : (declarations associations identity).findSome? mapping.fault? = none ↔
        ∀ declaration ∈ declarations associations identity,
          mapping.contains declaration.1 = true ∧ declaration.2 ≠ "" := by
      rw [List.findSome?_eq_none_iff]
      exact forall₂_congr fun declaration _ => Mapping.fault?_eq_none_iff
    cases fault : (declarations associations identity).findSome? mapping.fault? with
    | some error =>
      simp only [reduceCtorEq, Except.ok.injEq, false_iff]
      rintro ⟨m, rfl, good, -⟩
      rw [faultless.mpr good] at fault
      cases fault
    | none =>
      simp only [Except.ok.injEq]
      constructor
      · rintro rfl
        exact ⟨mapping, rfl, faultless.mp fault, rfl⟩
      · rintro ⟨m, rfl, -, rfl⟩
        rfl

end Binding

end Intake
