import Intake.Pipeline.Codec
import Intake.Proofs.Schema.Indices

/-!
# Pipelines that are saved and loaded again

A pipeline that was loaded can be saved and loaded again (`Pipeline.loads_saved`). Everything but
the index is restored as it was. Of the index only the order of the mappings may change, as they may
be saved in any order, and nothing depends on that: neither what is bound and built nor the text
that is written in the end.

That it was loaded matters only for the index, of which not every value comes from a text: mappings
have to have distinct names and fields in order, and there must be room for the sub-fields.
-/

namespace Intake

open Intake.Json Intake.Schema

/-! ## Parts of a pipeline -/

theorem namesToJson_restores {depth : Nat} (room : 0 < depth) (names : List String) :
    (aList depth aString).Restores (namesToJson names) names := by
  have items : List.Forall₂ aString.Restores (names.map Json.string) names :=
    List.forall₂_map_left_iff.mpr (List.forall₂_same.mpr fun name _ => aString_restores name)
  exact aList_restores room items

/-- A field source is restored. -/
theorem readSource_restores {depth : Nat} (room : 1 < depth) (source : FieldSource) :
    (readSource depth).Restores source.toJson source := by
  have fills : (sourceShape (depth - 1)).Fills ⟨none, none⟩
      [("field", .string source.field), ("paths", namesToJson source.paths)]
      ⟨some source.field, some source.paths⟩ := by
    have paths := namesToJson_restores (Nat.sub_pos_of_lt room) source.paths
    refine .cons rfl rfl (Member.needed_restores (aString_restores source.field) _) ?_
    exact .cons rfl rfl (Member.needed_restores paths _) (.nil _)
  exact (Shape.read_restores (Nat.zero_lt_of_lt room) fills rfl).map _

theorem lookup_policiesByName (dates : Calendar.DatePolicy) :
    policiesByName.lookup (policyName dates) = some dates := by
  cases dates <;> decide

/-! ## Enrichers -/

section

variable {value : Reader Json} {kind : EnricherKind} {members : List (String × Json)}

/-- Members after the kind are taken as they come. -/
theorem readSpecMembers_tail (keys : ∀ member ∈ members, member.1 ≠ kindKey)
    (restores : ∀ member ∈ members, value.Restores member.2 member.2)
    {before : List (String × Json)} {fuel : Nat} (enough : members.length < fuel)
    (rest : List Char) :
    readSpecMembers value fuel false (some kind) before (membersTail members ++ '\x7d' :: rest) =
      .ok ((kind, before ++ members), '\x7d' :: rest) := by
  induction members generalizing before fuel with
  | nil =>
    obtain ⟨fuel, rfl⟩ := Nat.exists_eq_add_one_of_ne_zero (Nat.ne_zero_of_lt enough)
    rw [List.append_nil]
    rfl
  | cons member members ih =>
    obtain ⟨fuel, rfl⟩ := Nat.exists_eq_add_one_of_ne_zero (Nat.ne_zero_of_lt enough)
    obtain ⟨key, json⟩ := member
    obtain ⟨other_key, other_keys⟩ := List.forall_mem_cons.mp keys
    obtain ⟨first, others⟩ := List.forall_mem_cons.mp restores
    have one_more : before ++ (key, json) :: members = before ++ [(key, json)] ++ members := by simp
    rw [membersTail_cons, List.cons_append, List.append_assoc, List.append_assoc, readSpecMembers,
      nextKey_later]
    dsimp only [bind, Except.bind]
    rw [if_neg other_key]
    show (value (json.chars ++ (membersTail members ++ '\x7d' :: rest)) >>= fun r => _) = _
    rw [first.takes, one_more, ← ih other_keys others (Nat.lt_of_succ_lt_succ enough)]
    rfl

/-- **An enricher is restored** from its kind and its members after it, if they make it. -/
theorem readSpec_restores {depth : Nat} (room : 0 < depth) {name : String} {spec : EnricherSpec}
    (known : kindsByName.lookup name = some kind) (keys : ∀ member ∈ members, member.1 ≠ kindKey)
    (inner : ∀ member ∈ members, ReadsBack true (depth - 1) member.2)
    (made : EnricherSpec.ofMembers kind members = .ok spec) :
    (readSpec depth).Restores (.object ((kindKey, .string name) :: members)) spec where
  starts := ⟨'\x7b', _, rfl, by decide, by decide⟩
  takes rest := by
    let all : List (String × Json) := (kindKey, .string name) :: members
    have members_read :
        readSpecMembers (readValue true (depth - 1))
          ((membersChars all ++ '\x7d' :: rest).length + 1) true none []
          (membersChars all ++ '\x7d' :: rest) = .ok ((kind, members), '\x7d' :: rest) := by
      have enough := length_lt_length_membersChars (kindKey, .string name) members rest
      generalize (membersChars all ++ '\x7d' :: rest).length = fuel at enough
      have others : readSpecMembers (readValue true (depth - 1)) fuel false (some kind) []
          (membersTail members ++ '\x7d' :: rest) = .ok ((kind, [] ++ members), '\x7d' :: rest) :=
        readSpecMembers_tail keys (fun member mem => readValue_restores (inner member mem)) enough
          rest
      rw [membersChars_cons, List.append_assoc, List.append_assoc, readSpecMembers, nextKey_first]
      dsimp only [bind, Except.bind]
      rw [if_pos rfl, if_neg (by decide)]
      show (nameReader kindsByName ((Json.string name).chars ++ _) >>= fun r => _) = _
      rw [nameReader, stringReader_takes]
      show (nameValue kindsByName name _ >>= fun r => _) = _
      rw [nameValue, known]
      exact others
    rw [object_chars_append]
    show (if depth = 0 then _ else readSpecMembers (readValue true (depth - 1)) _ true none [] _ >>=
      fun r => _) = _
    rw [if_neg (Nat.ne_of_gt room), members_read]
    show finishSpec (EnricherSpec.ofMembers kind members) rest = _
    rw [made]
    rfl

end

theorem EnricherSpec.restores {depth : Nat} (room : 0 < depth) (spec : EnricherSpec) :
    (readSpec depth).Restores spec.toJson spec := by
  cases spec with
  | tokenCount field =>
    have known : kindsByName.lookup "token_count" = some .tokenCount := rfl
    refine readSpec_restores room known ?_ ?_ rfl
    · simp [kindKey]
    · simpa using ReadsBack.string _ _
  | extraction field pattern =>
    have known : kindsByName.lookup "regex_extract" = some .extraction := rfl
    refine readSpec_restores room known ?_ ?_ rfl
    · simp [kindKey]
    · simpa using ⟨ReadsBack.string _ _, ReadsBack.string _ _⟩

/-! ## Whole pipelines -/

namespace Pipeline

/-- The JSON value of a pipeline whose mappings are written in the given order. -/
def jsonWith (pipeline : Pipeline) (mappings : List (String × Mapping)) : Json :=
  .object
    [("index", indexJson pipeline.index.name mappings),
     ("doc_type", .string pipeline.docType),
     ("fields", .array (pipeline.sources.map FieldSource.toJson)),
     ("identity_fields", namesToJson pipeline.identity),
     ("id_field", (pipeline.idField.map Json.string).getD .null),
     ("date_parsing", .string (policyName pipeline.dates)),
     ("enrichers", .array (pipeline.enrichers.map EnricherSpec.toJson))]

theorem toJson_eq (pipeline : Pipeline) :
    pipeline.toJson = pipeline.jsonWith (sortByKey pipeline.index.mappings) := rfl

/-- The same pipeline, with the mappings of its index in another order. -/
def reordered (pipeline : Pipeline) {mappings : List (String × Mapping)}
    (perm : mappings.Perm pipeline.index.mappings) : Pipeline :=
  { pipeline with index := pipeline.index.reordered perm }

/-- How many brackets may be opened below the one of a pipeline. -/
def innerDepth : Nat := Json.maxDepth - 1

/-- **A pipeline with an accepted index is restored**, whatever order its mappings are written
in. -/
theorem restores {pipeline : Pipeline} (accepted : pipeline.index.IsAccepted (innerDepth - 4))
    {mappings : List (String × Mapping)} (perm : mappings.Perm pipeline.index.mappings) :
    readPipeline.Restores (pipeline.jsonWith mappings) (pipeline.reordered perm) := by
  have index := readIndex_restores (by decide) accepted perm
  have sources : List.Forall₂ (readSource (innerDepth - 1)).Restores
      (pipeline.sources.map FieldSource.toJson) pipeline.sources :=
    List.forall₂_map_left_iff.mpr (List.forall₂_same.mpr fun source _ =>
      readSource_restores (by decide) source)
  have enrichers : List.Forall₂ (readSpec (innerDepth - 1)).Restores
      (pipeline.enrichers.map EnricherSpec.toJson) pipeline.enrichers :=
    List.forall₂_map_left_iff.mpr (List.forall₂_same.mpr fun spec _ =>
      spec.restores (by decide))
  have identity := namesToJson_restores (show 0 < innerDepth by decide) pipeline.identity
  have id_field : (optional aString).Restores ((pipeline.idField.map Json.string).getD .null)
      pipeline.idField := by
    cases pipeline.idField with
    | none => exact optional_restores_null aString
    | some name => exact optional_restores (aString_restores name) nofun
  have dates := oneOf_restores innerDepth (lookup_policiesByName pipeline.dates)
  have fills : (pipelineShape innerDepth).Fills .empty
      [("index", indexJson pipeline.index.name mappings),
       ("doc_type", .string pipeline.docType),
       ("fields", .array (pipeline.sources.map FieldSource.toJson)),
       ("identity_fields", namesToJson pipeline.identity),
       ("id_field", (pipeline.idField.map Json.string).getD .null),
       ("date_parsing", .string (policyName pipeline.dates)),
       ("enrichers", .array (pipeline.enrichers.map EnricherSpec.toJson))]
      ⟨some (pipeline.index.reordered perm), some pipeline.docType, some pipeline.sources,
        some pipeline.identity, some pipeline.idField, some pipeline.dates,
        some pipeline.enrichers⟩ := by
    refine .cons rfl rfl (Member.needed_restores index _) ?_
    refine .cons rfl rfl (Member.needed_restores (aString_restores pipeline.docType) _) ?_
    refine .cons rfl rfl (Member.free_restores (aList_restores (by decide) sources) _) ?_
    refine .cons rfl rfl (Member.free_restores identity _) ?_
    refine .cons rfl rfl (Member.free_restores id_field _) ?_
    refine .cons rfl rfl (Member.free_restores dates _) ?_
    exact .cons rfl rfl (Member.free_restores (aList_restores (by decide) enrichers) _) (.nil _)
  exact (Shape.read_restores (by decide) fills rfl).map _

/-- **The index of a pipeline that was read is accepted.** -/
theorem readPipeline_gives :
    readPipeline.Gives fun pipeline => pipeline.index.IsAccepted (innerDepth - 4) := by
  have keeps : (pipelineShape innerDepth).Keeps fun draft =>
      ∀ index, draft.index = some index → index.IsAccepted (innerDepth - 4) := by
    intro m mem draft kept
    simp only [pipelineShape, List.mem_cons, List.not_mem_nil, or_false] at mem
    rcases mem with rfl | rfl | rfl | rfl | rfl | rfl | rfl
    · refine Member.needed_gives (readIndex_gives innerDepth) ?_
      intro index accepted index' same
      obtain rfl := Option.some.inj same
      exact accepted
    · exact Member.needed_gives (Reader.gives_any _) fun _ _ => kept
    · exact Member.free_gives (Reader.gives_any _) fun _ _ => kept
    · exact Member.free_gives (Reader.gives_any _) fun _ _ => kept
    · exact Member.free_gives (Reader.gives_any _) fun _ _ => kept
    · exact Member.free_gives (Reader.gives_any _) fun _ _ => kept
    · exact Member.free_gives (Reader.gives_any _) fun _ _ => kept
  have start : ∀ index, PipelineDraft.empty.index = some index →
      index.IsAccepted (innerDepth - 4) := fun _ impossible => nomatch impossible
  refine (Shape.read_gives keeps Json.maxDepth start).map fun draft accepted => ?_
  show (draft.index.getD (Index.empty "")).IsAccepted (innerDepth - 4)
  cases known : draft.index with
  | none => exact IndexTable.empty_isAccepted _ _
  | some index => exact accepted index known

theorem parse_eq_ok_iff {text : String} {pipeline : Pipeline} :
    parse text = .ok pipeline ↔ readAll readPipeline text.toList = .ok pipeline := by
  unfold parse
  cases readAll readPipeline text.toList with
  | error refusal => exact ⟨nofun, nofun⟩
  | ok other => exact ⟨fun h => congrArg _ (Except.ok.inj h), fun h => congrArg _ (Except.ok.inj h)⟩

/-! ## The order of the mappings -/

/-- The value is one that the pipeline may be saved as: its mappings are written in some order. -/
def IsSavedAs (pipeline : Pipeline) (saved : Json) : Prop :=
  ∃ mappings, mappings.Perm pipeline.index.mappings ∧ saved = pipeline.jsonWith mappings

/-- Everything is the same, but the mappings of the index may be in another order, in which each
name leads to the same mapping. -/
structure SameAs (pipeline loaded : Pipeline) : Prop where
  name_eq : loaded.index.name = pipeline.index.name
  perm : loaded.index.mappings.Perm pipeline.index.mappings
  mapping?_eq : ∀ name, loaded.index.mapping? name = pipeline.index.mapping? name
  docType_eq : loaded.docType = pipeline.docType
  sources_eq : loaded.sources = pipeline.sources
  identity_eq : loaded.identity = pipeline.identity
  idField_eq : loaded.idField = pipeline.idField
  dates_eq : loaded.dates = pipeline.dates
  enrichers_eq : loaded.enrichers = pipeline.enrichers

variable {pipeline loaded : Pipeline}

theorem reordered_sameAs {mappings : List (String × Mapping)}
    (perm : mappings.Perm pipeline.index.mappings) :
    pipeline.SameAs (pipeline.reordered perm) where
  name_eq := rfl
  perm := perm
  mapping?_eq := congrFun (IndexTable.mapping?_of_perm pipeline.index.sound.distinct perm)
  docType_eq := rfl
  sources_eq := rfl
  identity_eq := rfl
  idField_eq := rfl
  dates_eq := rfl
  enrichers_eq := rfl

namespace SameAs

variable (same : pipeline.SameAs loaded)

include same

/-- **The same text is written in the end**, as mappings are sorted. -/
theorem toJson_eq : loaded.toJson = pipeline.toJson := by
  rw [Pipeline.toJson_eq, Pipeline.toJson_eq,
    sortByKey_of_perm pipeline.index.sound.distinct same.perm, jsonWith, jsonWith, same.name_eq,
    same.docType_eq, same.sources_eq, same.identity_eq, same.idField_eq, same.dates_eq,
    same.enrichers_eq]

theorem resolve_eq (docType : String) :
    loaded.index.resolve docType = pipeline.index.resolve docType := by
  simp only [IndexTable.resolve, IndexTable.defaultMapping?, same.mapping?_eq, same.name_eq]

/-- **The same is bound.** -/
theorem bind_eq : loaded.bind = pipeline.bind := by
  simp only [Pipeline.bind, Binding.derive, associations, same.resolve_eq, same.name_eq,
    same.docType_eq, same.sources_eq, same.identity_eq]

/-- **The same is built.** -/
theorem builder_eq : loaded.builder = pipeline.builder := by
  simp only [Pipeline.builder, same.bind_eq, same.resolve_eq, same.docType_eq, same.idField_eq,
    same.dates_eq, same.enrichers_eq]

end SameAs

/-- **A pipeline that was loaded can be saved and loaded again.** It may be saved with its mappings
in any order. It is loaded as the same pipeline, but for that order: the index has the same name,
and the same mapping, with the same fields, under each name; the document type, the sources, the
identity fields, the identifying field, the date policy and the enrichers are the same. Saved with
the mappings sorted, both have the same text; and both have the same binding and builder. -/
theorem loads_saved {text : String} (h : parse text = .ok pipeline) :
    pipeline.IsSavedAs pipeline.toJson ∧
    ∀ saved, pipeline.IsSavedAs saved →
      ∃ loaded, parse saved.text = .ok loaded ∧ pipeline.SameAs loaded ∧
        loaded.toJson.text = pipeline.toJson.text ∧
        loaded.bind = pipeline.bind ∧ loaded.builder = pipeline.builder := by
  have accepted := readPipeline_gives.readAll (parse_eq_ok_iff.mp h)
  refine ⟨⟨_, sortByKey_perm _, toJson_eq pipeline⟩, ?_⟩
  rintro saved ⟨mappings, perm, rfl⟩
  have same := reordered_sameAs perm
  refine ⟨pipeline.reordered perm, ?_, same, ?_, same.bind_eq, same.builder_eq⟩
  · exact parse_eq_ok_iff.mpr (restores accepted perm).readAll
  · rw [same.toJson_eq]

/-- A pipeline that is written in lists and objects, with members that are null, unknown or left
out, and with its mappings out of order. -/
def shelfSource : String :=
  "[[\"shelf\",\x7b\"film\":\x7b\x7d,\"book\":[[[\"isbn\",null,[[\"raw\"]],false]," ++
    "\x7b\"extra\":[],\"name\":\"title\",\"fields\":[]\x7d]]\x7d]," ++
    "\"book\",[],[\"isbn\"],null]"

/-- The flags of the fields of a mapping, by name. -/
def bookFlags (pipeline : Pipeline) : Option (List (String × Option Bool)) :=
  (pipeline.index.mapping? "book").map fun mapping =>
    mapping.fields.map fun field => (field.name, field.ignoreMalformed)

/-- The pipeline is loaded, saved, and loaded as the same pipeline, with one flag cleared and one
not mentioned. -/
theorem loads_saved_shelf :
    ∃ pipeline loaded, parse shelfSource = .ok pipeline ∧
      parse pipeline.toJson.text = .ok loaded ∧ pipeline.SameAs loaded ∧
      loaded.bookFlags = some [("isbn", some false), ("title", none)] ∧
      loaded.toJson.text = pipeline.toJson.text := by
  have flags_eq : (parse shelfSource).toOption.map bookFlags =
      some (some [("isbn", some false), ("title", none)]) := by
    decide +kernel
  cases read : parse shelfSource with
  | error fault =>
    rw [read] at flags_eq
    cases flags_eq
  | ok pipeline =>
    rw [read] at flags_eq
    obtain ⟨is_saved, loads⟩ := loads_saved read
    obtain ⟨loaded, parsed, same, same_text, -⟩ := loads _ is_saved
    have same_flags : loaded.bookFlags = pipeline.bookFlags := by
      rw [bookFlags, same.mapping?_eq, bookFlags]
    have flags_eq : pipeline.bookFlags = _ := Option.some.inj flags_eq
    exact ⟨pipeline, loaded, rfl, parsed, same, same_flags.trans flags_eq, same_text⟩

end Pipeline

end Intake
