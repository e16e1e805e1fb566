import Intake.Proofs.Binding.ReverseIndex
import Intake.Proofs.Text.Cutting

/-!
# What a binding says

A derived binding is the reverse index of its declarations, so all that can be asked of it can be
read off them (`Binding.IsReverseIndexOf`): its paths and their keys, the fields of a path and the
fields over all paths. A declaration that came before adds nothing (`Binding.reverseIndex_repeated`)
and has no fault that was not found already. Together these say when a binding is derived, what it is
and what the answer is otherwise (`Binding.derive_reverses_declarations`).
-/

namespace Intake

open Intake.Schema

namespace Binding

/-! ## Keys of paths -/

/-- The keys of a path, with dots between them, are the path. -/
theorem intercalate_pathSegments (path : String) : ".".intercalate (pathSegments path) = path := by
  apply String.toList_injective
  have pieces : (pathSegments path).map String.toList =
      Text.splitAtEach (· == '.') path.toList := by
    rw [pathSegments, List.map_map]
    simp [Function.comp_def]
  rw [String.toList_intercalate, pieces]
  exact Text.intercalate_splitAtEach '.' path.toList

/-- No key of a path holds a dot. -/
theorem dot_not_mem_of_mem_pathSegments {path key : String} (mem : key ∈ pathSegments path) :
    '.' ∉ key.toList := by
  obtain ⟨piece, piece_mem, rfl⟩ := List.mem_map.mp mem
  rw [String.toList_ofList]
  exact Text.not_mem_of_mem_splitAtEach '.' path.toList piece piece_mem

/-! ## Fields and targets -/

theorem find?_map_path (paths : List String) (fields : String → List Field) (path : String) :
    (paths.map fun p => PathBinding.mk p (fields p)).find? (fun p => p.path == path) =
      if path ∈ paths then some ⟨path, fields path⟩ else none := by
  induction paths with
  | nil => rfl
  | cons head rest ih =>
    rw [List.map_cons, List.find?_cons]
    by_cases here : head = path
    · simp [here]
    · have other : (head == path) = false := beq_eq_false_iff_ne.mpr here
      have elsewhere : path ∈ head :: rest ↔ path ∈ rest := by
        simpa using fun e => absurd e.symm here
      simp only [other, ih, elsewhere]

variable {binding : Binding} {mapping : Mapping} {declared : List (String × String)}

/-- **The fields of a path** are the definitions of the names that were declared for it. -/
theorem fieldsFor_of_reverseIndex (paths_eq : binding.paths = reverseIndex mapping declared)
    (path : String) :
    binding.fieldsFor path = mapping.definitions (declaredNames declared path) := by
  rw [fieldsFor, paths_eq, reverseIndex, find?_map_path]
  by_cases bound : path ∈ declaredPaths declared
  · rw [if_pos bound]
  · rw [if_neg bound, declaredNames_of_not_mem bound]
    rfl

section

variable (indexed : mapping.Indexed)

include indexed

/-- Adding definitions one after the other leaves those of the distinct names. -/
theorem foldl_addDistinct (names : List String) {fields : List Field}
    (defined : ∀ field ∈ fields, mapping.get? field.name = some field) :
    fields.foldl (fun found field => addDistinct field found)
        (mapping.definitions names.eraseDups) =
      mapping.definitions (names ++ fields.map (·.name)).eraseDups := by
  induction fields generalizing names with
  | nil => rw [List.map_nil, List.append_nil]; rfl
  | cons field rest ih =>
    obtain ⟨here, later⟩ := List.forall_mem_cons.mp defined
    have one_more : names ++ (field :: rest).map (·.name) =
        names ++ [field.name] ++ rest.map (·.name) := by simp
    rw [List.foldl_cons, indexed.addDistinct_definitions here, ← eraseDups_append_singleton,
      ih _ later, one_more]

/-- The fields of a reverse index are the mapping's own definitions. -/
theorem get?_of_mem_reverseIndex {path : PathBinding} {field : Field}
    (reads : path ∈ reverseIndex mapping declared) (fills : field ∈ path.fields) :
    mapping.get? field.name = some field := by
  obtain ⟨p, -, rfl⟩ := List.mem_map.mp reads
  obtain ⟨name, -, found⟩ := List.mem_filterMap.mp fills
  rwa [(indexed.get?_eq_some_iff.mp found).2]

/-- **The targets** are the definitions of the distinct names over all paths. -/
theorem targets_of_reverseIndex (paths_eq : binding.paths = reverseIndex mapping declared) :
    binding.targets =
      mapping.definitions ((binding.paths.flatMap (·.fields)).map (·.name)).eraseDups := by
  have defined : ∀ field ∈ binding.paths.flatMap (·.fields),
      mapping.get? field.name = some field := by
    intro field mem
    obtain ⟨path, reads, fills⟩ := List.mem_flatMap.mp mem
    rw [paths_eq] at reads
    exact get?_of_mem_reverseIndex indexed reads fills
  exact foldl_addDistinct indexed [] defined

end

/-- The binding is the reverse index of declarations, with the definitions of a mapping. -/
structure IsReverseIndexOf (binding : Binding) (mapping : Mapping)
    (declared : List (String × String)) : Prop where
  mapping_eq : binding.mapping = mapping.name
  /-- The paths are the declared ones, by their first declaration. -/
  paths_eq : binding.paths.map (·.path) = (declared.map Prod.snd).eraseDups
  /-- A path feeds the fields that were declared for it, by their first declaration. -/
  fields_eq : ∀ path ∈ binding.paths,
    path.fields.map some =
      ((declared.filter fun declaration => declaration.2 == path.path).map
        Prod.fst).eraseDups.map mapping.get?
  segments_join : ∀ path ∈ binding.paths, ".".intercalate path.segments = path.path
  segments_undotted : ∀ path ∈ binding.paths, ∀ key ∈ path.segments, '.' ∉ key.toList
  fieldsFor_bound : ∀ path ∈ binding.paths, binding.fieldsFor path.path = path.fields
  fieldsFor_unbound : ∀ path, path ∉ declared.map Prod.snd → binding.fieldsFor path = []
  /-- The targets are the fields over all paths, each where it comes first. -/
  targets_eq : binding.targets.map some =
    ((binding.paths.flatMap (·.fields)).map (·.name)).eraseDups.map mapping.get?

/-- **A binding with the paths of the reverse index** says what was declared. -/
theorem isReverseIndexOf (indexed : mapping.Indexed)
    (known : ∀ declaration ∈ declared, mapping.contains declaration.1 = true)
    (mapping_eq : binding.mapping = mapping.name)
    (paths_eq : binding.paths = reverseIndex mapping declared) :
    binding.IsReverseIndexOf mapping declared where
  mapping_eq := mapping_eq
  paths_eq := by
    rw [paths_eq, reverseIndex, List.map_map]
    exact List.map_id _
  fields_eq := by
    intro path reads
    rw [paths_eq] at reads
    obtain ⟨p, -, rfl⟩ := List.mem_map.mp reads
    refine indexed.map_some_definitions fun name mem => ?_
    exact known (name, p) (mem_declaredNames.mp mem)
  segments_join := fun path _ => intercalate_pathSegments path.path
  segments_undotted := fun path _ key mem => dot_not_mem_of_mem_pathSegments mem
  fieldsFor_bound := by
    intro path reads
    rw [fieldsFor_of_reverseIndex paths_eq]
    rw [paths_eq] at reads
    obtain ⟨p, -, rfl⟩ := List.mem_map.mp reads
    rfl
  fieldsFor_unbound := by
    intro path absent
    have unbound : path ∉ declaredPaths declared := mt List.mem_eraseDups.mp absent
    rw [fieldsFor_of_reverseIndex paths_eq, declaredNames_of_not_mem unbound]
    rfl
  targets_eq := by
    rw [targets_of_reverseIndex indexed paths_eq]
    refine indexed.map_some_definitions fun name mem => ?_
    obtain ⟨field, fed, rfl⟩ := List.mem_map.mp (List.mem_eraseDups.mp mem)
    obtain ⟨path, reads, fills⟩ := List.mem_flatMap.mp fed
    rw [paths_eq] at reads
    exact indexed.contains_iff_exists.mpr ⟨field, get?_of_mem_reverseIndex indexed reads fills⟩

/-! ## Repeated declarations -/

section

variable {before : List (String × String)} {repeated : String × String}
  (known : repeated ∈ before) (after : List (String × String))

include known

theorem findSome?_fault?_repeated (mapping : Mapping) :
    (before ++ repeated :: after).findSome? mapping.fault? =
      (before ++ after).findSome? mapping.fault? := by
  rw [List.findSome?_append, List.findSome?_append, List.findSome?_cons]
  cases found : before.findSome? mapping.fault? with
  | some error => rfl
  | none =>
    rw [List.findSome?_eq_none_iff] at found
    rw [found repeated known]

theorem reverseIndex_repeated (mapping : Mapping) :
    reverseIndex mapping (before ++ repeated :: after) = reverseIndex mapping (before ++ after) := by
  have paths_eq : declaredPaths (before ++ repeated :: after) = declaredPaths (before ++ after) := by
    rw [declaredPaths, List.map_append, List.map_cons,
      eraseDups_append_cons_of_mem (List.mem_map_of_mem known), ← List.map_append, declaredPaths]
  have names_eq (path : String) :
      declaredNames (before ++ repeated :: after) path = declaredNames (before ++ after) path := by
    rw [declaredNames, declaredNames, List.filter_append, List.filter_append, List.filter_cons]
    by_cases here : (repeated.2 == path) = true
    · have kept : repeated ∈ before.filter fun declaration => declaration.2 == path :=
        List.mem_filter.mpr ⟨known, here⟩
      rw [if_pos here, List.map_append, List.map_cons,
        eraseDups_append_cons_of_mem (List.mem_map_of_mem kept), ← List.map_append]
    · rw [if_neg here]
  rw [reverseIndex, reverseIndex, paths_eq]
  exact List.map_congr_left fun path _ => by rw [names_eq]

end

/-! ## Derived bindings -/

/-- **A binding is exactly the reverse index of its declarations.** It is derived if the mapping
resolves, and every declaration names a field of the mapping and a path that is not empty. If not,
the answer is that there is no mapping, or what is wrong with the first declaration that has a fault:
its field is unknown, or else its path is empty. What is derived says what was declared, and no
declaration that came before changes anything, for better or worse. -/
theorem derive_reverses_declarations (index : Index) (docType : String)
    (associations : List (String × String)) (identity : List String) :
    ((∃ binding, derive index docType associations identity = .ok binding) ↔
      ∃ mapping, index.resolve docType = .ok mapping ∧
        ∀ declaration ∈ declarations associations identity,
          mapping.contains declaration.1 = true ∧ declaration.2 ≠ "") ∧
    (∀ error, derive index docType associations identity = .error error ↔
      (index.mapping? docType = none ∧ index.defaultMapping? = none ∧
        error = .unknownMapping index.name docType) ∨
      ∃ mapping before bad after, index.resolve docType = .ok mapping ∧
        declarations associations identity = before ++ bad :: after ∧
        (∀ declaration ∈ before, mapping.contains declaration.1 = true ∧ declaration.2 ≠ "") ∧
        (mapping.contains bad.1 = false ∧ error = .unknownField bad.1 mapping.name ∨
          mapping.contains bad.1 = true ∧ bad.2 = "" ∧ error = .config (.emptyPath bad.1))) ∧
    (∀ binding, derive index docType associations identity = .ok binding →
      ∃ mapping, index.resolve docType = .ok mapping ∧ binding.index = index.name ∧
        binding.IsReverseIndexOf mapping (declarations associations identity)) ∧
    ∀ associations' identity' before repeated after,
      declarations associations identity = before ++ after → repeated ∈ before →
      declarations associations' identity' = before ++ repeated :: after →
      derive index docType associations' identity' =
        derive index docType associations identity := by
  refine ⟨?_, fun error => ?_, fun binding derived => ?_, ?_⟩
  · simp only [derive_eq_ok_iff]
    constructor
    · rintro ⟨binding, mapping, resolved, good, -⟩
      exact ⟨mapping, resolved, good⟩
    · rintro ⟨mapping, resolved, good⟩
      exact ⟨_, mapping, resolved, good, rfl⟩
  · rw [derive_eq_error_iff, Index.resolve_eq_error_iff]
    refine or_congr_right ?_
    constructor
    · rintro ⟨mapping, resolved, fault⟩
      obtain ⟨before, bad, after, split_eq, bad_fault, good⟩ :=
        List.findSome?_eq_some_iff.mp fault
      refine ⟨mapping, before, bad, after, resolved, split_eq, ?_,
        Mapping.fault?_eq_some_iff.mp bad_fault⟩
      exact fun declaration mem => Mapping.fault?_eq_none_iff.mp (good declaration mem)
    · rintro ⟨mapping, before, bad, after, resolved, split_eq, good, bad_fault⟩
      refine ⟨mapping, resolved, List.findSome?_eq_some_iff.mpr
        ⟨before, bad, after, split_eq, Mapping.fault?_eq_some_iff.mpr bad_fault, ?_⟩⟩
      exact fun declaration mem => Mapping.fault?_eq_none_iff.mpr (good declaration mem)
  · obtain ⟨mapping, resolved, good, rfl⟩ := derive_eq_ok_iff.mp derived
    have indexed := index.sound.indexed_of_resolve resolved
    refine ⟨mapping, resolved, rfl, isReverseIndexOf indexed ?_ rfl rfl⟩
    exact fun declaration mem => (good declaration mem).1
  · intro associations' identity' before repeated after split_eq known split_eq'
    rw [derive_eq, derive_eq, split_eq, split_eq']
    cases index.resolve docType with
    | error error => rfl
    | ok mapping =>
      dsimp only
      rw [findSome?_fault?_repeated known, reverseIndex_repeated known]

/-- Articles with an id, a title and names. -/
def articleMapping : Mapping where
  name := "article"
  fields :=
    [Field.ofType "id" .keyword, Field.ofType "title" .text, Field.ofType "all_names" .keyword]
  positions := [("id", 0), ("title", 1), ("all_names", 2)]

/-- An index of articles. -/
def newsIndex : Index := (Index.empty "news").withMapping articleMapping rfl

/-- Names come from two paths, and one of them gives the title, too. -/
def articleSources : List (String × String) :=
  [("title", "headline"), ("all_names", "author.name"), ("all_names", "editors.name"),
    ("title", "author.name")]

/-- The path of two fields feeds them in the order in which they were declared for it. A declaration
that is made twice counts once, and an unknown field is noticed before its empty path. -/
theorem derive_reverses_declarations_articles :
    (∃ binding, derive newsIndex "article" articleSources ["id"] = .ok binding ∧
      binding.paths.map (·.path) = ["headline", "author.name", "editors.name", "id"] ∧
      (binding.fieldsFor "author.name").map (·.name) = ["all_names", "title"] ∧
      binding.fieldsFor "body" = [] ∧
      derive newsIndex "article" (articleSources ++ [("title", "headline")]) ["id"] =
        .ok binding) ∧
    derive newsIndex "article" [("title", "headline"), ("body", "")] ["id"] =
      .error (.unknownField "body" "article") := by
  have resolved : newsIndex.resolve "article" = .ok articleMapping := rfl
  obtain ⟨succeeds, -, reverses, repeats⟩ :=
    derive_reverses_declarations newsIndex "article" articleSources ["id"]
  obtain ⟨binding, derived⟩ := succeeds.mpr ⟨articleMapping, resolved, by decide +kernel⟩
  obtain ⟨mapping, same, -, reversed⟩ := reverses binding derived
  obtain rfl : articleMapping = mapping := Except.ok.inj (resolved.symm.trans same)
  refine ⟨⟨binding, derived, ?_, ?_, ?_, ?_⟩, ?_⟩
  · rw [reversed.paths_eq]
    decide +kernel
  · have bound : "author.name" ∈ binding.paths.map (·.path) := by
      rw [reversed.paths_eq]
      decide +kernel
    obtain ⟨path, reads, path_eq⟩ := List.mem_map.mp bound
    have fields_eq := reversed.fields_eq path reads
    rw [path_eq] at fields_eq
    rw [← path_eq, reversed.fieldsFor_bound path reads]
    have names_eq := congrArg (List.map fun field? => field?.map Field.name) fields_eq
    rw [List.map_map] at names_eq
    apply List.map_injective_iff.mpr fun _ _ => Option.some.inj
    rw [List.map_map]
    exact names_eq.trans (by decide +kernel)
  · exact reversed.fieldsFor_unbound "body" (by decide +kernel)
  · rw [repeats (articleSources ++ [("title", "headline")]) ["id"] articleSources
      ("title", "headline") [("id", "id")] rfl (by decide) rfl, derived]
  · obtain ⟨-, fails, -, -⟩ :=
      derive_reverses_declarations newsIndex "article" [("title", "headline"), ("body", "")] ["id"]
    refine (fails _).mpr (.inr ⟨articleMapping, [("title", "headline")], ("body", ""),
      [("id", "id")], resolved, rfl, ?_, .inl ?_⟩)
    · decide +kernel
    · decide +kernel

end Binding

end Intake
