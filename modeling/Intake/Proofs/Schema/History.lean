import Intake.Proofs.Schema.Indices

/-!
# Schemas over their history

Mappings are opened, fields are offered to them, and copies of them are installed in an index, in
any order and any number of times. A `Ledger` only writes down what was offered and what was
installed, and checks nothing; the mappings and the index that come of the same steps are read off
it (`Desk.run_followsLedger`). A mapping holds the first field of every name that was offered to it,
and its table of positions agrees with that list, whether an offer is taken or refused. The index
resolves a document type to what was installed under it last, as it was when it was installed.

An index may also begin as one that was read from a text. Its mappings then count as installed in
the order in which the text has them (`IndexTable.Origin`).
-/

namespace Intake.Schema

/-! ## The first field of every name -/

/-- The fields that have a name, without those whose name came up before. -/
def firstOfEachName : List Field → List Field
  | [] => []
  | field :: rest =>
    if field.name = "" then firstOfEachName rest
    else field :: (firstOfEachName rest).filter fun other => other.name ≠ field.name

/-- **One more field** counts if it has a name that is new. -/
theorem firstOfEachName_append_singleton (fields : List Field) (last : Field) :
    firstOfEachName (fields ++ [last]) =
      if last.name = "" ∨ last.name ∈ (firstOfEachName fields).map (·.name) then
        firstOfEachName fields
      else firstOfEachName fields ++ [last] := by
  induction fields with
  | nil => by_cases unnamed : last.name = "" <;> simp [firstOfEachName, unnamed]
  | cons field rest ih =>
    by_cases unnamed : field.name = ""
    · simp only [List.cons_append, firstOfEachName, if_pos unnamed, ih]
    · simp only [List.cons_append, firstOfEachName, if_neg unnamed, ih]
      by_cases same : last.name = field.name
      · -- whether it came up in the rest or not, it is filtered out
        have known : last.name = "" ∨ last.name ∈ (field :: (firstOfEachName rest).filter
            fun other => other.name ≠ field.name).map (·.name) := .inr (by simp [same])
        rw [if_pos known]
        split
        · rfl
        · simp [same]
      · have known_iff : last.name ∈ (field :: (firstOfEachName rest).filter fun other =>
            other.name ≠ field.name).map (·.name) ↔
              last.name ∈ (firstOfEachName rest).map (·.name) := by
          rw [List.map_cons, List.mem_cons, or_iff_right same]
          simp only [List.mem_map, List.mem_filter, decide_eq_true_eq]
          constructor
          · intro h
            obtain ⟨other, ⟨mem, -⟩, name_eq⟩ := h
            exact ⟨other, mem, name_eq⟩
          · intro h
            obtain ⟨other, mem, name_eq⟩ := h
            exact ⟨other, ⟨mem, name_eq ▸ same⟩, name_eq⟩
        simp only [known_iff]
        split
        · rfl
        · simp [same]

theorem firstOfEachName_named {fields : List Field} {field : Field}
    (mem : field ∈ firstOfEachName fields) : field.name ≠ "" := by
  induction fields with
  | nil => cases mem
  | cons head rest ih =>
    unfold firstOfEachName at mem
    split at mem
    · exact ih mem
    · next named =>
      rcases List.mem_cons.mp mem with here | later
      · rw [here]
        exact named
      · exact ih (List.mem_filter.mp later).1

theorem firstOfEachName_nodup (fields : List Field) :
    ((firstOfEachName fields).map (·.name)).Nodup := by
  induction fields with
  | nil => exact List.nodup_nil
  | cons head rest ih =>
    unfold firstOfEachName
    split
    · exact ih
    · rw [List.map_cons, List.nodup_cons]
      constructor
      · simp
      · exact ih.sublist (List.filter_sublist.map _)

/-! ## Mappings -/

namespace Mapping

variable {mapping : Mapping}

/-- What a mapping answers agrees with the list of its fields, and so does its table of positions. -/
structure IsConsistent (mapping : Mapping) : Prop where
  named : ∀ field ∈ mapping.fields, field.name ≠ ""
  distinct : mapping.names.Nodup
  /-- The table of positions and the list of fields agree. -/
  indexed : mapping.Indexed
  get?_iff : ∀ name field,
    mapping.get? name = some field ↔ field ∈ mapping.fields ∧ field.name = name
  contains_iff : ∀ name, mapping.contains name = true ↔ name ∈ mapping.names
  size_eq : mapping.size = mapping.names.length
  isEmpty_iff : mapping.isEmpty = true ↔ ∀ name, mapping.get? name = none
  /-- A refused field leaves both as they were. -/
  refuses : ∀ field, field.name = "" ∨ field.name ∈ mapping.names →
    ∃ error, (addField field).on mapping = (.error error, mapping) ∧
      mapping.withField field = .error error ∧ error.isConfiguration = true
  /-- Any other field goes to the end of the list, and both agree again. -/
  takes : ∀ field, field.name ≠ "" → field.name ∉ mapping.names →
    ∃ added, (addField field).on mapping = (.ok (), added) ∧ mapping.withField field = .ok added ∧
      added.name = mapping.name ∧ added.fields = mapping.fields ++ [field] ∧ added.Indexed

theorem withField_eq (mapping : Mapping) (field : Field) :
    mapping.withField field =
      ((addField field).on mapping).1.map fun _ => ((addField field).on mapping).2 := by
  rw [withField]
  cases (addField field).on mapping with
  | mk verdict after => cases verdict <;> rfl

section

variable (indexed : mapping.Indexed)

include indexed

/-- **A field without a name, or with one that is taken, is refused** as a fault of the
configuration, and neither the fields nor the table change. -/
theorem Indexed.addField_refused {field : Field}
    (refused : field.name = "" ∨ field.name ∈ mapping.names) :
    ∃ error, (Mapping.addField field).on mapping = (.error error, mapping) ∧
      error.isConfiguration = true := by
  rw [addField_on]
  by_cases unnamed : field.name = ""
  · rw [if_pos unnamed]
    exact ⟨_, rfl, rfl⟩
  · rw [if_neg unnamed, if_pos (indexed.contains_iff.mpr (refused.resolve_left unnamed))]
    exact ⟨_, rfl, rfl⟩

/-- **Any other field is added** at the end. -/
theorem Indexed.addField_taken {field : Field} (named : field.name ≠ "")
    (fresh : field.name ∉ mapping.names) :
    (Mapping.addField field).on mapping =
      (.ok (), (mapping.notePosition field.name).pushField field) := by
  rw [addField_on, if_neg named, if_neg (mt indexed.contains_iff.mp fresh)]

theorem Indexed.isEmpty_iff : mapping.isEmpty = true ↔ ∀ name, mapping.get? name = none := by
  rw [isEmpty, List.isEmpty_iff]
  constructor
  · intro no_fields name
    refine Option.eq_none_iff_forall_ne_some.mpr fun field found => ?_
    have mem := (indexed.get?_eq_some_iff.mp found).1
    rw [no_fields] at mem
    cases mem
  · intro none_found
    refine List.eq_nil_iff_forall_not_mem.mpr fun field mem => ?_
    have found := indexed.get?_eq_some_iff.mpr ⟨mem, rfl⟩
    rw [none_found field.name] at found
    cases found

/-- All that is asked of a mapping is that its fields have names, and that they are indexed. -/
theorem Indexed.isConsistent (named : ∀ field ∈ mapping.fields, field.name ≠ "") :
    mapping.IsConsistent where
  named := named
  distinct := indexed.nodup
  indexed := indexed
  get?_iff := fun _ _ => indexed.get?_eq_some_iff
  contains_iff := fun _ => indexed.contains_iff
  size_eq := mapping.length_names.symm
  isEmpty_iff := indexed.isEmpty_iff
  refuses := by
    intro field refused
    obtain ⟨error, same, configuration⟩ := indexed.addField_refused refused
    refine ⟨error, same, ?_, configuration⟩
    rw [withField_eq, same]
    rfl
  takes := by
    intro field named fresh
    have taken := indexed.addField_taken named fresh
    have added : mapping.withField field =
        .ok ((mapping.notePosition field.name).pushField field) := by
      rw [withField_eq, taken]
      rfl
    exact ⟨_, taken, added, rfl, rfl, indexed.withField added⟩

end

/-! ## Mappings of offered fields -/

/-- The mapping that comes of a name and the fields that were offered: each first field of its name
is at the position at which it was taken. -/
def ofOffered (name : String) (offered : List Field) : Mapping where
  name := name
  fields := firstOfEachName offered
  positions := ((firstOfEachName offered).map (·.name)).zipIdx

theorem ofOffered_indexed (name : String) (offered : List Field) :
    (ofOffered name offered).Indexed :=
  .zipIdx (firstOfEachName_nodup offered)

theorem ofOffered_isConsistent (name : String) (offered : List Field) :
    (ofOffered name offered).IsConsistent :=
  (ofOffered_indexed name offered).isConsistent fun _ => firstOfEachName_named

/-- **One more offer** does to the mapping what it does to the list of offers. -/
theorem addField_ofOffered (name : String) (offered : List Field) (field : Field) :
    ((addField field).on (ofOffered name offered)).2 = ofOffered name (offered ++ [field]) := by
  have indexed := ofOffered_indexed name offered
  have fields_eq := firstOfEachName_append_singleton offered field
  by_cases refused : field.name = "" ∨ field.name ∈ (firstOfEachName offered).map (·.name)
  · rw [if_pos refused] at fields_eq
    obtain ⟨error, same, -⟩ := indexed.addField_refused refused
    rw [same, ofOffered, ofOffered, fields_eq]
  · rw [if_neg refused] at fields_eq
    obtain ⟨named, fresh⟩ := not_or.mp refused
    have positions_eq := putEntry_zipIdx fresh
    rw [List.length_map] at positions_eq
    rw [indexed.addField_taken named fresh, ofOffered, notePosition, pushField, positions_eq,
      ofOffered, fields_eq, List.map_append, List.map_singleton]

/-- An offer to a copy of the mapping, which takes its place if it can be made, does the same. -/
theorem withField_ofOffered (name : String) (offered : List Field) (field : Field) :
    ((ofOffered name offered).withField field).toOption.getD (ofOffered name offered) =
      ofOffered name (offered ++ [field]) := by
  rw [← addField_ofOffered, withField_eq]
  by_cases refused : field.name = "" ∨ field.name ∈ (ofOffered name offered).names
  · obtain ⟨error, same, -⟩ := (ofOffered_indexed name offered).addField_refused refused
    rw [same]
    rfl
  · obtain ⟨named, fresh⟩ := not_or.mp refused
    rw [(ofOffered_indexed name offered).addField_taken named fresh]
    rfl

/-- Fields that are all taken are the first of their names. -/
theorem eq_ofOffered_of_ofFields {name : String} {fields : List Field} {mapping : Mapping}
    (h : ofFields name fields = .ok mapping) : mapping = ofOffered name fields := by
  refine foldlM_induction (P := fun taken mapping => mapping = ofOffered name taken) h rfl ?_
  rintro taken field _ before added - first rfl
  have offered := withField_ofOffered name taken field
  rw [first] at offered
  exact offered

end Mapping

/-! ## The mapping that was installed last -/

/-- The last of some mappings that has the name. -/
def lastNamed (name : String) (mappings : List Mapping) : Option Mapping :=
  mappings.reverse.find? fun mapping => mapping.name == name

theorem lastNamed_append_singleton (name : String) (mappings : List Mapping) (last : Mapping) :
    lastNamed name (mappings ++ [last]) =
      if last.name = name then some last else lastNamed name mappings := by
  by_cases same : last.name = name <;> simp [lastNamed, same]

theorem lastNamed_cons (name : String) (head : Mapping) (rest : List Mapping) :
    lastNamed name (head :: rest) =
      (lastNamed name rest).or (if head.name = name then some head else none) := by
  by_cases same : head.name = name <;> simp [lastNamed, List.find?_append, same]

theorem isSome_lastNamed {mappings : List Mapping} {mapping : Mapping} (mem : mapping ∈ mappings) :
    (lastNamed mapping.name mappings).isSome = true := by
  rw [lastNamed, List.find?_isSome]
  exact ⟨mapping, List.mem_reverse.mpr mem, by simp⟩

namespace IndexTable

variable {table : IndexTable} {installed : List Mapping}

/-- Every mapping stands under its own name, and is found there. -/
structure IsKeyed (table : IndexTable) : Prop where
  keys_eq : ∀ entry ∈ table.mappings, entry.1 = entry.2.name
  distinct : (table.mappings.map Prod.fst).Nodup
  mapping?_iff : ∀ name mapping,
    table.mapping? name = some mapping ↔ (name, mapping) ∈ table.mappings

/-- The answer for a document type, if the given mappings were installed one after the other. -/
def resolved (indexName docType : String) (installed : List Mapping) : Except IngestError Mapping :=
  match lastNamed docType installed with
  | some mapping => .ok mapping
  | none =>
    match lastNamed defaultMappingName installed with
    | some mapping => .ok mapping
    | none => .error (.unknownMapping indexName docType)

/-- The table holds what was installed last under every name. -/
structure Follows (table : IndexTable) (installed : List Mapping) : Prop where
  keyed : ∀ entry ∈ table.mappings, entry.1 = entry.2.name
  distinct : (table.mappings.map Prod.fst).Nodup
  mapping?_eq : ∀ name, table.mapping? name = lastNamed name installed

theorem empty_follows (name : String) : (empty name).Follows [] where
  keyed := nofun
  distinct := List.nodup_nil
  mapping?_eq := fun _ => rfl

/-- **One more mapping** takes the place of the one of its name. -/
theorem Follows.addMapping (h : table.Follows installed) (mapping : Mapping) :
    (table.addMapping mapping).Follows (installed ++ [mapping]) where
  keyed := forall_mem_putEntry rfl h.keyed
  distinct := nodup_keys_putEntry h.distinct
  mapping?_eq := by
    intro name
    rw [lastNamed_append_singleton]
    by_cases same : mapping.name = name
    · rw [if_pos same, ← same, mapping?_addMapping_self]
    · rw [if_neg same, mapping?_addMapping_of_ne table mapping (Ne.symm same), h.mapping?_eq]

theorem Follows.isKeyed (h : table.Follows installed) : table.IsKeyed where
  keys_eq := h.keyed
  distinct := h.distinct
  mapping?_iff := fun _ _ => lookup_eq_some_iff_mem h.distinct

/-- What a table holds was installed. -/
theorem Follows.mem_installed (h : table.Follows installed) {entry : String × Mapping}
    (mem : entry ∈ table.mappings) : entry.2 ∈ installed := by
  have found : table.mapping? entry.1 = some entry.2 := (lookup_eq_some_iff_mem h.distinct).mpr mem
  rw [h.mapping?_eq] at found
  exact List.mem_reverse.mp (List.mem_of_find?_eq_some found)

theorem Follows.resolve_eq (h : table.Follows installed) (docType : String) :
    table.resolve docType = resolved table.name docType installed := by
  rw [resolve, defaultMapping?, h.mapping?_eq, h.mapping?_eq, resolved]
  cases lastNamed docType installed with
  | some mapping => rfl
  | none => rfl

/-! ## Indices that were read -/

/-- The mapping that an entry of a text stands for. -/
def ofEntry (entry : String × List Field) : Mapping := .ofOffered entry.1 entry.2

/-- An index at the beginning of its history, and the mappings that count as installed in it: none
in a new one, and those of the text in one that was read. -/
inductive Origin : IndexTable → List Mapping → Prop where
  | new (name : String) : Origin (empty name) []
  | read {draft : IndexDraft} {table : IndexTable} (made : draft.table = .ok table) :
      Origin table ((draft.mappings.getD []).map ofEntry)

/-- An entry whose key comes up again does not count. -/
theorem lastNamed_lastEntries (name : String) (entries : List (String × List Field)) :
    lastNamed name ((lastEntries entries).map ofEntry) = lastNamed name (entries.map ofEntry) := by
  induction entries with
  | nil => rfl
  | cons entry rest ih =>
    obtain ⟨key, fields⟩ := entry
    rw [lastEntries, List.map_cons, lastNamed_cons, ← ih]
    split
    · next again =>
      by_cases same : key = name
      · obtain ⟨later, mem, key_eq⟩ := List.any_eq_true.mp again
        have later_found := isSome_lastNamed (List.mem_map_of_mem (f := ofEntry) mem)
        have name_eq : (ofEntry later).name = name := (beq_iff_eq.mp key_eq).trans same
        rw [name_eq, ← ih] at later_found
        rw [Option.or_of_isSome later_found]
      · rw [if_neg (show (ofEntry (key, fields)).name ≠ name from same), Option.or_none]
    · rw [List.map_cons, lastNamed_cons]

/-- Entries that are all taken are installed one after the other. -/
theorem follows_of_table {draft : IndexDraft} (made : draft.table = .ok table) :
    table.Follows ((lastEntries (draft.mappings.getD [])).map ofEntry) := by
  refine foldlM_induction (P := fun taken table => table.Follows (taken.map ofEntry)) made
    (empty_follows _) ?_
  intro taken entry _ before next _ put follows
  obtain ⟨mapping, ready, given⟩ := bind_eq_ok.mp put
  cases given
  rw [List.map_append, Mapping.eq_ofOffered_of_ofFields ready]
  exact follows.addMapping _

/-- **An index follows its origin.** -/
theorem Origin.follows (origin : table.Origin installed) : table.Follows installed := by
  cases origin with
  | new name => exact empty_follows name
  | read made =>
    have last := follows_of_table made
    refine ⟨last.keyed, last.distinct, fun name => ?_⟩
    rw [last.mapping?_eq, lastNamed_lastEntries]

theorem Origin.isConsistent (origin : table.Origin installed) :
    ∀ mapping ∈ installed, mapping.IsConsistent := by
  intro mapping mem
  cases origin with
  | new name => cases mem
  | read made =>
    obtain ⟨entry, -, rfl⟩ := List.mem_map.mp mem
    exact Mapping.ofOffered_isConsistent entry.1 entry.2

/-- **An index that was read from a text**, by itself or within another one, has an origin. -/
theorem Origin.of_readIndex {depth : Nat} {text rest : List Char} {index : Index}
    (h : readIndex depth text = .ok (index, rest)) :
    ∃ installed, index.toIndexTable.Origin installed := by
  obtain ⟨⟨draft, after⟩, -, made⟩ := bind_eq_ok.mp h
  dsimp only at made
  split at made
  · next made_eq =>
    cases made
    exact ⟨_, .read (IndexDraft.table_of_index made_eq)⟩
  · cases made

end IndexTable

/-! ## Steps -/

/-- A step in the history of schemas. Mappings are told apart by the order in which they were
opened. -/
inductive Step where
  | openMapping (name : String)
  /-- Adds a field to a mapping. -/
  | addField (slot : Nat) (field : Field)
  /-- Puts a copy of a mapping with one more field in its place, if that can be made. -/
  | withField (slot : Nat) (field : Field)
  /-- Adds a copy of a mapping to the index. -/
  | install (slot : Nat)

/-- The mappings that were opened, and an index. -/
structure Desk where
  mappings : List Mapping
  index : IndexTable

/-- Does one step. What is offered to no mapping is lost, and no mapping is installed where there is
none. -/
def Desk.take (desk : Desk) : Step → Desk
  | .openMapping name => { desk with mappings := desk.mappings ++ [.empty name] }
  | .addField slot field =>
    { desk with
      mappings := desk.mappings.modify slot fun mapping => ((Mapping.addField field).on mapping).2 }
  | .withField slot field =>
    { desk with
      mappings := desk.mappings.modify slot fun mapping =>
        (mapping.withField field).toOption.getD mapping }
  | .install slot =>
    match desk.mappings[slot]? with
    | some mapping => { desk with index := desk.index.addMapping mapping }
    | none => desk

/-- Does some steps, beginning with an index and no mappings. -/
def Desk.run (start : IndexTable) (steps : List Step) : Desk := steps.foldl take ⟨[], start⟩

/-- What was offered to each mapping, by its name, and what was installed, in order. -/
structure Ledger where
  offered : List (String × List Field)
  installed : List Mapping

/-- Writes an offer down. -/
def Ledger.noteOffer (ledger : Ledger) (slot : Nat) (field : Field) : Ledger :=
  { ledger with offered := ledger.offered.modify slot fun entry => (entry.1, entry.2 ++ [field]) }

/-- Writes one step down. What is installed is the mapping as it is then. -/
def Ledger.note (ledger : Ledger) : Step → Ledger
  | .openMapping name => { ledger with offered := ledger.offered ++ [(name, [])] }
  | .addField slot field => ledger.noteOffer slot field
  | .withField slot field => ledger.noteOffer slot field
  | .install slot =>
    { ledger with
      installed := ledger.installed ++ (ledger.offered[slot]?.map IndexTable.ofEntry).toList }

/-- The ledger of some steps. -/
def Ledger.ofSteps (steps : List Step) : Ledger := steps.foldl note ⟨[], []⟩

/-! ## Following the ledger -/

/-- The mappings are those of the ledger, and the index follows what was installed. -/
structure Desk.Follows (desk : Desk) (initial : List Mapping) (ledger : Ledger) : Prop where
  mappings_eq : desk.mappings = ledger.offered.map IndexTable.ofEntry
  index_follows : desk.index.Follows (initial ++ ledger.installed)
  installed_consistent : ∀ mapping ∈ ledger.installed, mapping.IsConsistent

/-- **One offer.** What it does to the mapping in a slot is what it adds to the ledger. -/
theorem Desk.Follows.noteOffer {desk : Desk} {initial : List Mapping} {ledger : Ledger}
    (h : desk.Follows initial ledger) (slot : Nat) (field : Field) {offer : Mapping → Mapping}
    (offer_eq : ∀ name offered,
      offer (.ofOffered name offered) = .ofOffered name (offered ++ [field])) :
    ({ desk with mappings := desk.mappings.modify slot offer } : Desk).Follows initial
      (ledger.noteOffer slot field) := by
  refine ⟨?_, h.index_follows, h.installed_consistent⟩
  refine List.ext_getElem? fun i => ?_
  simp only [Ledger.noteOffer, h.mappings_eq, List.getElem?_map, List.getElem?_modify]
  cases ledger.offered[i]? with
  | none => rfl
  | some entry => by_cases here : slot = i <;> simp [here, IndexTable.ofEntry, offer_eq]

/-- **One step.** What a step does to the mappings and the index is what it adds to the ledger. -/
theorem Desk.Follows.take {desk : Desk} {initial : List Mapping} {ledger : Ledger}
    (h : desk.Follows initial ledger) (step : Step) :
    (desk.take step).Follows initial (ledger.note step) := by
  cases step with
  | openMapping name =>
    refine ⟨?_, h.index_follows, h.installed_consistent⟩
    simp only [Desk.take, Ledger.note, h.mappings_eq, List.map_append, List.map_singleton]
    rfl
  | addField slot field =>
    exact h.noteOffer slot field fun name offered => Mapping.addField_ofOffered name offered field
  | withField slot field =>
    exact h.noteOffer slot field fun name offered => Mapping.withField_ofOffered name offered field
  | install slot =>
    have found : desk.mappings[slot]? = ledger.offered[slot]?.map IndexTable.ofEntry := by
      rw [h.mappings_eq, List.getElem?_map]
    simp only [Desk.take, Ledger.note, found]
    cases ledger.offered[slot]? with
    | none =>
      exact ⟨h.mappings_eq, by simpa using h.index_follows, by simpa using h.installed_consistent⟩
    | some entry =>
      refine ⟨h.mappings_eq, ?_, ?_⟩
      · simpa using h.index_follows.addMapping (IndexTable.ofEntry entry)
      · intro mapping mem
        rcases List.mem_append.mp mem with old | new
        · exact h.installed_consistent mapping old
        · obtain rfl : mapping = IndexTable.ofEntry entry := by simpa using new
          exact Mapping.ofOffered_isConsistent entry.1 entry.2

/-- **All steps.** -/
theorem Desk.run_follows {start : IndexTable} {initial : List Mapping}
    (origin : start.Origin initial) (steps : List Step) :
    (Desk.run start steps).Follows initial (.ofSteps steps) := by
  suffices ∀ (desk : Desk) (ledger : Ledger), desk.Follows initial ledger →
      (steps.foldl Desk.take desk).Follows initial (steps.foldl Ledger.note ledger) by
    refine this _ _ ⟨rfl, ?_, ?_⟩
    · simpa using origin.follows
    · intro mapping mem
      cases mem
  induction steps with
  | nil =>
    intro desk ledger h
    exact h
  | cons step rest ih =>
    intro desk ledger h
    exact ih _ _ (h.take step)

theorem Desk.name_run (start : IndexTable) (steps : List Step) :
    (Desk.run start steps).index.name = start.name := by
  suffices ∀ desk : Desk, (steps.foldl Desk.take desk).index.name = desk.index.name from this _
  induction steps with
  | nil =>
    intro desk
    rfl
  | cons step rest ih =>
    intro desk
    rw [List.foldl_cons, ih]
    cases step with
    | openMapping name => rfl
    | addField slot field => rfl
    | withField slot field => rfl
    | install slot =>
      unfold Desk.take
      dsimp only
      split
      · rfl
      · rfl

/-- Every mapping that was opened or stands in the index is consistent. -/
theorem Desk.run_isConsistent {start : IndexTable} {initial : List Mapping}
    (origin : start.Origin initial) (steps : List Step) :
    ∀ mapping ∈ (Desk.run start steps).mappings ++
      (Desk.run start steps).index.mappings.map Prod.snd, mapping.IsConsistent := by
  have follows := Desk.run_follows origin steps
  intro mapping mem
  rcases List.mem_append.mp mem with opened | kept
  · rw [follows.mappings_eq] at opened
    obtain ⟨entry, -, rfl⟩ := List.mem_map.mp opened
    exact Mapping.ofOffered_isConsistent entry.1 entry.2
  · obtain ⟨entry, entry_mem, rfl⟩ := List.mem_map.mp kept
    rcases List.mem_append.mp (follows.index_follows.mem_installed entry_mem) with read | installed
    · exact origin.isConsistent entry.2 read
    · exact follows.installed_consistent entry.2 installed

/-- **What is looked up in is always an index**: at no point of its history is its table unsound. -/
theorem Desk.run_index_isSound {start : IndexTable} {initial : List Mapping}
    (origin : start.Origin initial) (steps : List Step) :
    (Desk.run start steps).index.IsSound where
  keyed := (Desk.run_follows origin steps).index_follows.keyed
  distinct := (Desk.run_follows origin steps).index_follows.distinct
  indexed := fun _ mem =>
    (Desk.run_isConsistent origin steps _
      (List.mem_append_right _ (List.mem_map_of_mem mem))).indexed

/-- **Look-ups stay consistent over any history.** Begin with a new index or one that was read, and
open mappings, offer fields and install copies in any order. Then each mapping that was opened holds
the first field of every name that was offered to it, in the order of the offers, and its table has
their positions. Look-ups in it, and in each mapping of the index, agree with the list of its
fields, which have names, and different ones; it refuses an offer just if the field has no name or
one that is taken, with an error of configuration, and neither the fields nor the table change.
Every mapping of the index stands under its own name, and a document type is resolved to the mapping
that was installed last under it, or else under the name of the default mapping, as it was when it
was installed. -/
theorem Desk.run_followsLedger {start : IndexTable} {initial : List Mapping}
    (origin : start.Origin initial) (steps : List Step) :
    (Desk.run start steps).mappings =
        (Ledger.ofSteps steps).offered.map (fun entry => Mapping.ofOffered entry.1 entry.2) ∧
      (∀ mapping ∈ (Desk.run start steps).mappings ++
          (Desk.run start steps).index.mappings.map Prod.snd, mapping.IsConsistent) ∧
      (Desk.run start steps).index.IsKeyed ∧
      ∀ docType, (Desk.run start steps).index.resolve docType =
        IndexTable.resolved start.name docType (initial ++ (Ledger.ofSteps steps).installed) := by
  have follows := Desk.run_follows origin steps
  refine ⟨follows.mappings_eq, Desk.run_isConsistent origin steps,
    follows.index_follows.isKeyed, fun docType => ?_⟩
  rw [follows.index_follows.resolve_eq, Desk.name_run]

/-- What a text says of an index: one of its mappings comes up twice. -/
def libraryDraft : IndexDraft where
  name := some "library"
  mappings := some
    [("_default_", [.untyped "body"]), ("book", []), ("book", [.ofType "isbn" .keyword])]

/-- The index of that text. -/
def library : IndexTable where
  name := "library"
  mappings :=
    [("_default_", ⟨"_default_", [.untyped "body"], [("body", 0)]⟩),
     ("book", ⟨"book", [.ofType "isbn" .keyword], [("isbn", 0)]⟩)]

/-- A mapping is installed after two offers that it refuses, and is offered one more field later. -/
def filmSteps : List Step :=
  [.openMapping "film", .addField 0 (.ofType "title" .text), .withField 0 (.ofType "title" .keyword),
   .addField 0 (.untyped ""), .install 0, .withField 0 (.ofType "year" .short)]

/-- The later mapping of the text counts; what was installed does not see the offer after it; and
other types fall back to the default mapping. -/
theorem Desk.run_followsLedger_film :
    library.Origin ((libraryDraft.mappings.getD []).map IndexTable.ofEntry) ∧
      (Desk.run library filmSteps).mappings =
        [⟨"film", [.ofType "title" .text, .ofType "year" .short], [("title", 0), ("year", 1)]⟩] ∧
      (Desk.run library filmSteps).index.resolve "film" =
        .ok ⟨"film", [.ofType "title" .text], [("title", 0)]⟩ ∧
      (Desk.run library filmSteps).index.resolve "book" =
        .ok ⟨"book", [.ofType "isbn" .keyword], [("isbn", 0)]⟩ ∧
      (Desk.run library filmSteps).index.resolve "magazine" =
        .ok ⟨"_default_", [.untyped "body"], [("body", 0)]⟩ := by
  have origin : library.Origin ((libraryDraft.mappings.getD []).map IndexTable.ofEntry) := .read rfl
  obtain ⟨mappings_eq, -, -, resolves⟩ := Desk.run_followsLedger origin filmSteps
  refine ⟨origin, ?_, ?_, ?_, ?_⟩
  · rw [mappings_eq]
    rfl
  · rw [resolves]
    rfl
  · rw [resolves]
    rfl
  · rw [resolves]
    rfl

end Intake.Schema
