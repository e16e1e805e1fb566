import Intake.Build
import Intake.Proofs.Json.DistinctKeys

/-!
# Leaves and their trails

A leaf has a *trail*: the keys on the way from the root of its tree down to it. Lists leave no mark
on a trail. A path through a tree and the walk over the leaves at its end are two recursions, one
along the keys of the path and one over everything below; together they are one filter
(`Tree.leavesAt_eq_filter`): of all leaves, in their order, a path picks those whose trail starts
with it.

Where a record has several members of one key, a path goes on from the first of them only, and the
walk below the end of the path goes through all of them. So a step of a trail says which it was. In
records that were read as JSON every member is the first of its key, and only the keys matter.
-/

namespace Intake

/-- A step from a record to one of its members. -/
structure Step where
  key : String
  /-- Is the member the first of its key in the record? -/
  isFirst : Bool
  deriving DecidableEq, Repr

/-- The step to the first member of a key. -/
def Step.first (key : String) : Step := ⟨key, true⟩

/-- The steps from the root of a tree down to a leaf. -/
abbrev Trail := List Step

namespace Trail

/-- Does the trail start with the keys of a path, each time by way of the first member of the
key? -/
def startsWith (path : List String) (trail : Trail) : Bool :=
  (path.map Step.first).isPrefixOf trail

/-- The keys of a trail. -/
def keys (trail : Trail) : List String := trail.map Step.key

@[simp] theorem startsWith_nil (trail : Trail) : startsWith [] trail = true := rfl

theorem startsWith_cons_cons (key : String) (path : List String) (step : Step) (trail : Trail) :
    startsWith (key :: path) (step :: trail) = (Step.first key == step && startsWith path trail) :=
  rfl

/-- Where every step was to a first member, only the keys matter. -/
theorem startsWith_eq_isPrefixOf {trail : Trail} (first : ∀ step ∈ trail, step.isFirst = true)
    (path : List String) : startsWith path trail = path.isPrefixOf trail.keys := by
  induction path generalizing trail with
  | nil => rfl
  | cons key path ih =>
    cases trail with
    | nil => rfl
    | cons step trail =>
      obtain ⟨step_first, rest_first⟩ := List.forall_mem_cons.mp first
      have same_step : step = Step.first step.key := by rw [Step.first, ← step_first]
      have same_key : (Step.first key == Step.first step.key) = (key == step.key) := by
        rw [Bool.eq_iff_iff, beq_iff_eq, beq_iff_eq, Step.first, Step.first, Step.mk.injEq]
        exact and_iff_left rfl
      rw [startsWith_cons_cons, ih rest_first, same_step, same_key]
      rfl

end Trail

namespace Tree

/-! ## Trails -/

mutual

/-- The leaves of a tree in document order, each with its trail. -/
def trailedLeaves : Tree → List (Trail × Leaf)
  | .null => []
  | .scalar text => [([], .scalar text)]
  | .handle description => [([], .handle description)]
  | .list items => trailedItems items
  | .record members => trailedMembers [] members

/-- The leaves of some trees, with their trails. -/
def trailedItems : List Tree → List (Trail × Leaf)
  | [] => []
  | tree :: rest => tree.trailedLeaves ++ trailedItems rest

/-- The leaves of a record's members, with their trails from the record on. The first argument lists
the keys of the members before them. -/
def trailedMembers : List String → List (String × Tree) → List (Trail × Leaf)
  | _, [] => []
  | before, (key, tree) :: rest =>
    tree.trailedLeaves.map (fun leaf => (⟨key, !before.contains key⟩ :: leaf.1, leaf.2)) ++
      trailedMembers (key :: before) rest

end

mutual

/-- **Without their trails, they are the leaves.** -/
theorem map_snd_trailedLeaves : ∀ tree : Tree, tree.trailedLeaves.map Prod.snd = tree.leaves
  | .null => rfl
  | .scalar _ => rfl
  | .handle _ => rfl
  | .list items => map_snd_trailedItems items
  | .record members => map_snd_trailedMembers [] members

theorem map_snd_trailedItems : ∀ items : List Tree,
    (trailedItems items).map Prod.snd = itemLeaves items
  | [] => rfl
  | tree :: rest => by
    rw [trailedItems, List.map_append, map_snd_trailedLeaves tree, map_snd_trailedItems rest,
      itemLeaves]

theorem map_snd_trailedMembers : ∀ (before : List String) (members : List (String × Tree)),
    (trailedMembers before members).map Prod.snd = memberLeaves members
  | _, [] => rfl
  | before, (key, tree) :: rest => by
    have below : (tree.trailedLeaves.map fun leaf =>
        ((⟨key, !before.contains key⟩ : Step) :: leaf.1, leaf.2)).map Prod.snd = tree.leaves := by
      rw [List.map_map]
      exact map_snd_trailedLeaves tree
    rw [trailedMembers, List.map_append, below, map_snd_trailedMembers (key :: before) rest,
      memberLeaves]

end

/-! ## Paths -/

/-- Of leaves with trails, those whose trail starts with a path. -/
def pick (path : List String) (leaves : List (Trail × Leaf)) : List Leaf :=
  (leaves.filter fun leaf => leaf.1.startsWith path).map Prod.snd

theorem pick_append (path : List String) (front back : List (Trail × Leaf)) :
    pick path (front ++ back) = pick path front ++ pick path back := by
  simp [pick]

theorem pick_nil_path (leaves : List (Trail × Leaf)) : pick [] leaves = leaves.map Prod.snd := by
  have all : (leaves.filter fun leaf => leaf.1.startsWith []) = leaves :=
    List.filter_eq_self.mpr fun leaf _ => leaf.1.startsWith_nil
  rw [pick, all]

/-- Behind the step of a path's first key, the rest of the path picks. -/
theorem pick_cons_first (key : String) (path : List String) (leaves : List (Trail × Leaf)) :
    pick (key :: path) (leaves.map fun leaf => (Step.first key :: leaf.1, leaf.2)) =
      pick path leaves := by
  simp only [pick, List.filter_map, List.map_map]
  simp [Function.comp_def, Trail.startsWith_cons_cons]

/-- Behind any other step, a path picks nothing. -/
theorem pick_cons_other {key : String} {step : Step} (other : step ≠ Step.first key)
    (path : List String) (leaves : List (Trail × Leaf)) :
    pick (key :: path) (leaves.map fun leaf => (step :: leaf.1, leaf.2)) = [] := by
  have differ : (Step.first key == step) = false := by simpa using fun e => other e.symm
  simp only [pick, List.filter_map, List.map_map]
  simp [Function.comp_def, Trail.startsWith_cons_cons, differ]

/-- Once a key has come up, no further member of it is the first. -/
theorem pick_trailedMembers_of_mem {key : String} (path : List String) {before : List String}
    (members : List (String × Tree)) (known : key ∈ before) :
    pick (key :: path) (trailedMembers before members) = [] := by
  induction members generalizing before with
  | nil => rfl
  | cons member rest ih =>
    obtain ⟨k, tree⟩ := member
    have other : (⟨k, !before.contains k⟩ : Step) ≠ Step.first key := by
      intro e
      obtain ⟨rfl, first⟩ := Step.mk.inj e
      simp [known] at first
    rw [trailedMembers, pick_append, pick_cons_other other, List.nil_append,
      ih (List.mem_cons_of_mem k known)]

-- The path stays whole through lists and loses a key at each record, so all three are about every
-- path. Along the members of a record, its next key is not among the keys that came before.
mutual

theorem leavesAt_eq_pick : ∀ (path : List String) (tree : Tree),
    leavesAt path tree = pick path tree.trailedLeaves
  | path, .list items => leavesAtItems_eq_pick path items
  | [], .null => rfl
  | [], .scalar _ => rfl
  | [], .handle _ => rfl
  | [], .record members => by
    rw [pick_nil_path, map_snd_trailedLeaves]
    exact List.append_nil _
  | _ :: _, .null => rfl
  | _ :: _, .scalar _ => rfl
  | _ :: _, .handle _ => rfl
  | key :: path, .record members => leavesAtMember_eq_pick key path [] members List.not_mem_nil

theorem leavesAtItems_eq_pick : ∀ (path : List String) (items : List Tree),
    (reachItems path items).flatMap leaves = pick path (trailedItems items)
  | _, [] => rfl
  | path, tree :: rest => by
    rw [reachItems, List.flatMap_append, ← leavesAt, leavesAt_eq_pick path tree,
      leavesAtItems_eq_pick path rest, trailedItems, pick_append]

/-- As long as a key has not come up, its next member is the first. -/
theorem leavesAtMember_eq_pick : ∀ (key : String) (path before : List String)
    (members : List (String × Tree)), key ∉ before →
    (reachMember key path members).flatMap leaves =
      pick (key :: path) (trailedMembers before members)
  | _, _, _, [], _ => rfl
  | key, path, before, (k, tree) :: rest, fresh => by
    rw [reachMember, trailedMembers, pick_append]
    by_cases same : k = key
    · -- The path goes on in this member only: from here on the key has come up.
      subst same
      have step_eq : (⟨k, !before.contains k⟩ : Step) = Step.first k := by
        simp [Step.first, fresh]
      rw [if_pos rfl, step_eq, pick_cons_first, ← leavesAt, leavesAt_eq_pick path tree,
        pick_trailedMembers_of_mem path rest List.mem_cons_self, List.append_nil]
    · have other : (⟨k, !before.contains k⟩ : Step) ≠ Step.first key :=
        fun e => same (congrArg Step.key e)
      have still_fresh : key ∉ k :: before := by
        simpa using ⟨fun e => same e.symm, fresh⟩
      rw [if_neg same, pick_cons_other other, List.nil_append,
        leavesAtMember_eq_pick key path (k :: before) rest still_fresh]

end

/-! ## Records that were read -/

theorem mem_trailedItems {items : List Tree} {leaf : Trail × Leaf} (h : leaf ∈ trailedItems items) :
    ∃ tree ∈ items, leaf ∈ tree.trailedLeaves := by
  induction items with
  | nil => cases h
  | cons tree rest ih =>
    rcases List.mem_append.mp h with here | later
    · exact ⟨tree, List.mem_cons_self, here⟩
    · obtain ⟨other, mem, found⟩ := ih later
      exact ⟨other, List.mem_cons_of_mem _ mem, found⟩

/-- Among members of different keys, every one is the first of its key. -/
theorem mem_trailedMembers {before : List String} {members : List (String × Tree)}
    {leaf : Trail × Leaf} (distinct : (members.map Prod.fst).Nodup)
    (fresh : ∀ key ∈ members.map Prod.fst, key ∉ before)
    (h : leaf ∈ trailedMembers before members) :
    ∃ member ∈ members, ∃ below ∈ member.2.trailedLeaves,
      leaf = (Step.first member.1 :: below.1, below.2) := by
  induction members generalizing before with
  | nil => cases h
  | cons member rest ih =>
    obtain ⟨key, tree⟩ := member
    obtain ⟨key_once, rest_distinct⟩ := List.nodup_cons.mp distinct
    obtain ⟨key_fresh, rest_fresh⟩ := List.forall_mem_cons.mp fresh
    rcases List.mem_append.mp h with here | later
    · obtain ⟨below, mem, rfl⟩ := List.mem_map.mp here
      refine ⟨(key, tree), List.mem_cons_self, below, mem, ?_⟩
      simp [Step.first, key_fresh]
    · have still_fresh : ∀ k ∈ rest.map Prod.fst, k ∉ key :: before := by
        intro k mem known
        rcases List.mem_cons.mp known with rfl | old
        · exact key_once mem
        · exact rest_fresh k mem old
      obtain ⟨other, mem, found⟩ := ih rest_distinct still_fresh later
      exact ⟨other, List.mem_cons_of_mem _ mem, found⟩

/-- **Where no keys repeat, every step is to a first member.** -/
theorem isFirst_of_distinctKeys {value : Json} (distinct : value.DistinctKeys) :
    ∀ leaf ∈ (ofJson value).trailedLeaves, ∀ step ∈ leaf.1, step.isFirst = true := by
  induction distinct with
  | null => simp [ofJson, trailedLeaves]
  | bool | number | string => simp [ofJson, trailedLeaves]
  | array _ ih =>
    intro leaf mem
    rw [ofJson, ofItems_eq_map] at mem
    obtain ⟨tree, inside, found⟩ := mem_trailedItems mem
    obtain ⟨item, item_mem, rfl⟩ := List.mem_map.mp inside
    exact ih item item_mem leaf found
  | @object members distinct _ ih =>
    intro leaf mem
    rw [ofJson, ofMembers_eq_map] at mem
    have keys_eq : (members.map fun member => (member.1, ofJson member.2)).map Prod.fst =
        members.map Prod.fst := by
      rw [List.map_map]
      rfl
    obtain ⟨tree, inside, below, found, rfl⟩ :=
      mem_trailedMembers (keys_eq ▸ distinct) (fun _ _ => List.not_mem_nil) mem
    obtain ⟨member, member_mem, rfl⟩ := List.mem_map.mp inside
    exact List.forall_mem_cons.mpr ⟨rfl, ih member member_mem below found⟩

/-- **Which leaves a path reaches.** Of all leaves of a tree, in document order, a path hands on
those whose trail starts with its keys, where along the path only the first member of a key counts;
and of a record that was read as JSON, those whose keys start with it. -/
theorem leavesAt_eq_filter (path : List String) (tree : Tree) :
    tree.trailedLeaves.map Prod.snd = tree.leaves ∧
      tree.leavesAt path =
        (tree.trailedLeaves.filter fun leaf => leaf.1.startsWith path).map Prod.snd ∧
      (∀ source value, Json.read source = .ok value → tree = ofJson value →
        tree.leavesAt path =
          (tree.trailedLeaves.filter fun leaf => path.isPrefixOf leaf.1.keys).map Prod.snd) ∧
      ∀ (builder : Builder) (binding : PathBinding), binding.segments = path →
        builder.collectPath tree binding =
          ((tree.trailedLeaves.filter fun leaf => leaf.1.startsWith path).map Prod.snd).forM
            (builder.collectLeaf binding.fields) := by
  have picked := leavesAt_eq_pick path tree
  refine ⟨map_snd_trailedLeaves tree, picked, ?_, ?_⟩
  · rintro source value read_eq rfl
    have first := isFirst_of_distinctKeys (Json.read_distinctKeys read_eq)
    rw [picked, pick]
    refine congrArg (List.map Prod.snd) (List.filter_congr fun leaf mem => ?_)
    exact Trail.startsWith_eq_isPrefixOf (first leaf mem) path
  · rintro builder binding rfl
    rw [Builder.collectPath, picked, pick]

/-- A record with a list in a list, a number on the way, a list at the end of the path and a
null. -/
def shelves : String :=
  "\x7b\"a\":[[\x7b\"b\":\x7b\"c\":\"one\"\x7d\x7d]," ++
    "\x7b\"b\":[7,\x7b\"c\":[\"two\",\x7b\"d\":\"three\"\x7d]\x7d]\x7d," ++
      "\x7b\"b\":null\x7d],\"c\":\"four\"\x7d"

/-- What the record says. -/
def shelvesJson : Json :=
  .object
    [("a", .array
      [.array [.object [("b", .object [("c", .string "one")])]],
        .object [("b", .array
          [.number ⟨false, ['7'], none, none⟩,
            .object [("c", .array [.string "two", .object [("d", .string "three")]])]])],
        .object [("b", .null)]]),
      ("c", .string "four")]

/-- The path goes through both lists on its way and through the one at its end. -/
theorem leavesAt_shelves :
    Json.read shelves = .ok shelvesJson ∧ (⟨"a.b.c", []⟩ : PathBinding).segments = ["a", "b", "c"] ∧
      (ofJson shelvesJson).leavesAt ["a", "b", "c"] =
        [.scalar "one", .scalar "two", .scalar "three"] ∧
      ∀ builder : Builder, builder.collectPath (ofJson shelvesJson) ⟨"a.b.c", []⟩ =
        [.scalar "one", .scalar "two", .scalar "three"].forM (builder.collectLeaf []) := by
  have read_eq : Json.read shelves = .ok shelvesJson := by cbv
  have segments_eq : (⟨"a.b.c", []⟩ : PathBinding).segments = ["a", "b", "c"] := by
    decide +kernel
  obtain ⟨-, -, by_keys, collected⟩ := leavesAt_eq_filter ["a", "b", "c"] (ofJson shelvesJson)
  have picked : ((ofJson shelvesJson).trailedLeaves.filter fun leaf =>
      leaf.1.startsWith ["a", "b", "c"]).map Prod.snd =
        [.scalar "one", .scalar "two", .scalar "three"] := by
    decide +kernel
  refine ⟨read_eq, segments_eq, ?_, fun builder => ?_⟩
  · rw [by_keys shelves shelvesJson read_eq rfl]
    decide +kernel
  · rw [collected builder ⟨"a.b.c", []⟩ segments_eq, picked]

end Tree

end Intake
