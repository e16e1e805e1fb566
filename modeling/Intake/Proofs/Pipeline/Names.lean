import Intake.Pipeline.Basic
import Intake.Proofs.Binding.ReverseIndex
import Intake.Except

/-!
# Names in a pipeline

A pipeline mentions fields in four places: as targets of source paths, as fields that are read from
their own names, as the identifying field and as targets of enrichers. Every name is looked up in
the mapping of the document type when the builder is made, but one: the field of a source is looked
up once for each of its paths, so it is not looked up where there is none
(`Pipeline.builder_passingOver`). A pipeline that is accepted knows all other names
(`Pipeline.exists_builder_iff`), and one that is refused is refused as a configuration.
-/

namespace Intake

open Intake.Schema

/-! ## Errors of configuration -/

namespace Schema

theorem Mapping.fault?_isConfiguration {mapping : Mapping} {declaration : String × String}
    {error : IngestError} (h : mapping.fault? declaration = some error) :
    error.isConfiguration = true := by
  rcases Mapping.fault?_eq_some_iff.mp h with ⟨-, rfl⟩ | ⟨-, -, rfl⟩ <;> rfl

theorem Mapping.Indexed.exists_require_iff {mapping : Mapping} (indexed : mapping.Indexed)
    {name : String} : (∃ field, mapping.require name = .ok field) ↔ mapping.contains name = true := by
  rw [indexed.contains_iff_exists, Mapping.require]
  cases mapping.get? name <;> simp

theorem Mapping.require_isConfiguration {mapping : Mapping} {name : String} {error : IngestError}
    (h : mapping.require name = .error error) : error.isConfiguration = true := by
  unfold Mapping.require at h
  split at h
  · cases h
  · obtain rfl := Except.error.inj h
    rfl

theorem Index.resolve_isConfiguration {index : Index} {docType : String} {error : IngestError}
    (h : index.resolve docType = .error error) : error.isConfiguration = true := by
  obtain ⟨-, -, rfl⟩ := Index.resolve_eq_error_iff.mp h
  rfl

end Schema

theorem Binding.derive_isConfiguration {index : Index} {docType : String}
    {associations : List (String × String)} {identity : List String} {error : IngestError}
    (h : derive index docType associations identity = .error error) :
    error.isConfiguration = true := by
  rcases Binding.derive_eq_error_iff.mp h with unresolved | ⟨mapping, -, fault⟩
  · exact Index.resolve_isConfiguration unresolved
  · obtain ⟨declaration, -, found⟩ := List.exists_of_findSome?_eq_some fault
    exact Mapping.fault?_isConfiguration found

/-! ## Enrichers -/

namespace EnricherSpec

/-- The field that an enricher contributes to. -/
def field : EnricherSpec → String
  | .tokenCount name => name
  | .extraction name _ => name

/-- Is the pattern in order, if the enricher has one? -/
def HasReadablePattern : EnricherSpec → Prop
  | .tokenCount _ => True
  | .extraction _ pattern => ∃ program, Pattern.Program.ofText pattern = .ok program

theorem enricher_extraction (mapping : Mapping) (name pattern : String) :
    (extraction name pattern).enricher mapping =
      match Pattern.Program.ofText pattern with
      | .ok program => do return .extraction (← mapping.require name) program.findAll
      | .error fault => .error (.config (.invalidPattern name fault)) := rfl

/-- **An enricher is made** if its pattern is in order and its field is known. -/
theorem exists_enricher_iff {mapping : Mapping} (indexed : mapping.Indexed) {spec : EnricherSpec} :
    (∃ enricher, spec.enricher mapping = .ok enricher) ↔
      spec.HasReadablePattern ∧ mapping.contains spec.field = true := by
  rw [← indexed.exists_require_iff]
  cases spec with
  | tokenCount name =>
    constructor
    · rintro ⟨enricher, made⟩
      obtain ⟨field, found, -⟩ := bind_eq_ok.mp made
      exact ⟨trivial, field, found⟩
    · rintro ⟨-, field, found⟩
      exact ⟨.tokenCount field, bind_eq_ok.mpr ⟨field, found, rfl⟩⟩
  | extraction name pattern =>
    rw [enricher_extraction, HasReadablePattern]
    cases Pattern.Program.ofText pattern with
    | error fault =>
      constructor
      · rintro ⟨enricher, impossible⟩
        cases impossible
      · rintro ⟨⟨program, impossible⟩, -⟩
        cases impossible
    | ok program =>
      constructor
      · rintro ⟨enricher, made⟩
        obtain ⟨field, found, -⟩ := bind_eq_ok.mp made
        exact ⟨⟨program, rfl⟩, field, found⟩
      · rintro ⟨-, field, found⟩
        exact ⟨.extraction field program.findAll, bind_eq_ok.mpr ⟨field, found, rfl⟩⟩

theorem enricher_isConfiguration {mapping : Mapping} {spec : EnricherSpec} {error : IngestError}
    (h : spec.enricher mapping = .error error) : error.isConfiguration = true := by
  cases spec with
  | tokenCount name =>
    rcases bind_eq_error.mp h with unknown | ⟨field, -, impossible⟩
    · exact Mapping.require_isConfiguration unknown
    · cases impossible
  | extraction name pattern =>
    rw [enricher_extraction] at h
    split at h
    · rcases bind_eq_error.mp h with unknown | ⟨field, -, impossible⟩
      · exact Mapping.require_isConfiguration unknown
      · cases impossible
    · obtain rfl := Except.error.inj h
      rfl

end EnricherSpec

/-! ## Pipelines -/

namespace Pipeline

/-- The names of fields that a pipeline mentions. -/
def mentioned (pipeline : Pipeline) : List String :=
  pipeline.sources.map (·.field) ++ pipeline.identity ++ pipeline.idField.toList ++
    pipeline.enrichers.map (·.field)

/-- The pipeline without its sources that have no paths. -/
def passingOver (pipeline : Pipeline) : Pipeline :=
  { pipeline with sources := pipeline.sources.filter fun source => !source.paths.isEmpty }

/-- Looks up the identifying field, if there is one. -/
def requireId (pipeline : Pipeline) (mapping : Mapping) : Except IngestError Unit :=
  match pipeline.idField with
  | some name => discard (mapping.require name)
  | none => pure ()

variable {pipeline : Pipeline}

theorem builder_eq (pipeline : Pipeline) :
    pipeline.builder = do
      let binding ← pipeline.bind
      let mapping ← pipeline.index.resolve pipeline.docType
      pipeline.requireId mapping
      let enrichers ← pipeline.enrichers.mapM (EnricherSpec.enricher mapping)
      return ⟨binding, enrichers, pipeline.dates, pipeline.idField⟩ := by
  unfold builder requireId
  cases pipeline.idField <;> rfl

theorem requireId_eq_ok_iff {mapping : Mapping} (indexed : mapping.Indexed) {done : Unit} :
    pipeline.requireId mapping = .ok done ↔
      ∀ name ∈ pipeline.idField.toList, mapping.contains name = true := by
  unfold requireId
  cases pipeline.idField with
  | none => simp [pure, Except.pure]
  | some name =>
    simp only [Option.toList_some, List.mem_singleton, forall_eq, ← indexed.exists_require_iff]
    cases mapping.require name with
    | error error => exact ⟨nofun, nofun⟩
    | ok field => exact ⟨fun _ => ⟨field, rfl⟩, fun _ => rfl⟩

theorem requireId_isConfiguration {mapping : Mapping} {error : IngestError}
    (h : pipeline.requireId mapping = .error error) : error.isConfiguration = true := by
  unfold requireId at h
  split at h
  · next name _ =>
    cases required : mapping.require name with
    | ok field => rw [required] at h; cases h
    | error other =>
      rw [required] at h
      obtain rfl : other = error := Except.error.inj h
      exact Mapping.require_isConfiguration required
  · cases h

/-- **A source without paths is passed over**, whatever field it names. -/
theorem associations_passingOver (pipeline : Pipeline) :
    pipeline.passingOver.associations = pipeline.associations := by
  unfold associations passingOver
  induction pipeline.sources with
  | nil => rfl
  | cons source rest ih =>
    dsimp only at ih ⊢
    rw [List.filter_cons, List.flatMap_cons]
    by_cases idle : source.paths = []
    · simp [idle, ih]
    · simp [idle, ih]

theorem builder_passingOver (pipeline : Pipeline) :
    pipeline.passingOver.builder = pipeline.builder := by
  unfold builder Pipeline.bind
  rw [associations_passingOver]
  rfl

/-- Of all names that are mentioned, those of sources without paths are passed over. -/
theorem mem_mentioned_iff {name : String} :
    name ∈ pipeline.mentioned ↔
      name ∈ pipeline.passingOver.mentioned ∨
        ∃ source ∈ pipeline.sources, source.paths = [] ∧ source.field = name := by
  have sources_iff : (∃ source ∈ pipeline.sources, source.field = name) ↔
      (∃ source ∈ pipeline.sources, source.paths ≠ [] ∧ source.field = name) ∨
        ∃ source ∈ pipeline.sources, source.paths = [] ∧ source.field = name := by
    constructor
    · rintro ⟨source, mem, field_eq⟩
      by_cases idle : source.paths = []
      · exact .inr ⟨source, mem, idle, field_eq⟩
      · exact .inl ⟨source, mem, idle, field_eq⟩
    · rintro (⟨source, mem, -, field_eq⟩ | ⟨source, mem, -, field_eq⟩) <;>
        exact ⟨source, mem, field_eq⟩
  simp only [mentioned, passingOver, List.mem_append, List.mem_map, List.mem_filter,
    Bool.not_eq_true', List.isEmpty_eq_false_iff, sources_iff, and_assoc]
  simp only [or_comm, or_left_comm]

/-- The fields that are looked up for their paths. -/
theorem mem_declarations_iff {name path : String} :
    (name, path) ∈ Binding.declarations pipeline.associations pipeline.identity ↔
      (∃ source ∈ pipeline.sources, source.field = name ∧ path ∈ source.paths) ∨
        name ∈ pipeline.identity ∧ path = name := by
  simp only [Binding.declarations, associations, List.mem_append, List.mem_flatMap, List.mem_map,
    Prod.mk.injEq]
  refine or_congr ?_ ?_
  · constructor
    · rintro ⟨source, mem, p, p_mem, field_eq, rfl⟩
      exact ⟨source, mem, field_eq, p_mem⟩
    · rintro ⟨source, mem, field_eq, path_mem⟩
      exact ⟨source, mem, path, path_mem, field_eq, rfl⟩
  · constructor
    · rintro ⟨n, mem, rfl, rfl⟩
      exact ⟨mem, rfl⟩
    · rintro ⟨mem, rfl⟩
      exact ⟨path, mem, rfl, rfl⟩

/-- Every declaration of the pipeline is in order: the sources that have paths and the fields that are
read from their own names are known, and no path is empty. -/
theorem declarations_good_iff {mapping : Mapping} :
    (∀ declaration ∈ Binding.declarations pipeline.associations pipeline.identity,
        mapping.contains declaration.1 = true ∧ declaration.2 ≠ "") ↔
      (∀ source ∈ pipeline.sources, source.paths ≠ [] → mapping.contains source.field = true) ∧
        (∀ name ∈ pipeline.identity, mapping.contains name = true) ∧
        (∀ source ∈ pipeline.sources, "" ∉ source.paths) ∧ "" ∉ pipeline.identity := by
  constructor
  · intro good
    have of_source {source : FieldSource} {path : String} (mem : source ∈ pipeline.sources)
        (path_mem : path ∈ source.paths) : mapping.contains source.field = true ∧ path ≠ "" :=
      good (source.field, path) (mem_declarations_iff.mpr (.inl ⟨source, mem, rfl, path_mem⟩))
    have of_identity {name : String} (mem : name ∈ pipeline.identity) :
        mapping.contains name = true ∧ name ≠ "" :=
      good (name, name) (mem_declarations_iff.mpr (.inr ⟨mem, rfl⟩))
    refine ⟨?_, fun name mem => (of_identity mem).1, ?_, ?_⟩
    · intro source mem some_path
      obtain ⟨path, path_mem⟩ := List.exists_mem_of_ne_nil source.paths some_path
      exact (of_source mem path_mem).1
    · intro source mem empty_mem
      exact (of_source mem empty_mem).2 rfl
    · intro empty_mem
      exact (of_identity empty_mem).2 rfl
  · rintro ⟨sources_known, identity_known, paths_full, identity_full⟩ ⟨name, path⟩ declared
    rcases mem_declarations_iff.mp declared with ⟨source, mem, rfl, path_mem⟩ | ⟨mem, rfl⟩
    · refine ⟨sources_known source mem (List.ne_nil_of_mem path_mem), ?_⟩
      rintro rfl
      exact paths_full source mem path_mem
    · refine ⟨identity_known path mem, ?_⟩
      rintro rfl
      exact identity_full mem

/-- **What is accepted**: the mapping resolves, every name is known except for those of sources
without paths, no path is empty, and the patterns are in order. -/
theorem exists_builder_iff :
    (∃ builder, pipeline.builder = .ok builder) ↔
      ∃ mapping, pipeline.index.resolve pipeline.docType = .ok mapping ∧
        (∀ name ∈ pipeline.passingOver.mentioned, mapping.contains name = true) ∧
        (∀ source ∈ pipeline.sources, "" ∉ source.paths) ∧ "" ∉ pipeline.identity ∧
        ∀ spec ∈ pipeline.enrichers, spec.HasReadablePattern := by
  have mentioned_iff (mapping : Mapping) :
      (∀ name ∈ pipeline.passingOver.mentioned, mapping.contains name = true) ↔
        (((∀ source ∈ pipeline.sources, source.paths ≠ [] →
            mapping.contains source.field = true) ∧
          (∀ name ∈ pipeline.identity, mapping.contains name = true)) ∧
          (∀ name ∈ pipeline.idField.toList, mapping.contains name = true)) ∧
          ∀ spec ∈ pipeline.enrichers, mapping.contains spec.field = true := by
    simp only [mentioned, passingOver, List.forall_mem_append, List.forall_mem_map,
      List.mem_filter, Bool.not_eq_true', List.isEmpty_eq_false_iff, and_imp]
  constructor
  · rintro ⟨builder, made⟩
    rw [builder_eq] at made
    obtain ⟨binding, bound, made⟩ := bind_eq_ok.mp made
    obtain ⟨mapping, resolved, made⟩ := bind_eq_ok.mp made
    obtain ⟨done, id_known, made⟩ := bind_eq_ok.mp made
    obtain ⟨enrichers, enrichers_made, -⟩ := bind_eq_ok.mp made
    obtain ⟨same, resolved_same, good, -⟩ := Binding.derive_eq_ok_iff.mp bound
    obtain rfl : mapping = same := Except.ok.inj (resolved.symm.trans resolved_same)
    have indexed := pipeline.index.sound.indexed_of_resolve resolved
    obtain ⟨sources_known, identity_known, paths_full, identity_full⟩ :=
      declarations_good_iff.mp good
    have made (spec : EnricherSpec) (mem : spec ∈ pipeline.enrichers) :=
      (EnricherSpec.exists_enricher_iff indexed).mp
        (exists_mapM_eq_ok_iff.mp ⟨_, enrichers_made⟩ spec mem)
    refine ⟨mapping, resolved, (mentioned_iff mapping).mpr ?_, paths_full, identity_full,
      fun spec mem => (made spec mem).1⟩
    exact ⟨⟨⟨sources_known, identity_known⟩, (requireId_eq_ok_iff indexed).mp id_known⟩,
      fun spec mem => (made spec mem).2⟩
  · rintro ⟨mapping, resolved, known, paths_full, identity_full, readable⟩
    have indexed := pipeline.index.sound.indexed_of_resolve resolved
    obtain ⟨⟨⟨sources_known, identity_known⟩, id_known⟩, fields_known⟩ :=
      (mentioned_iff mapping).mp known
    obtain ⟨binding, bound⟩ : ∃ binding, pipeline.bind = .ok binding :=
      ⟨_, Binding.derive_eq_ok_iff.mpr ⟨mapping, resolved, declarations_good_iff.mpr
        ⟨sources_known, identity_known, paths_full, identity_full⟩, rfl⟩⟩
    obtain ⟨enrichers, enrichers_made⟩ := exists_mapM_eq_ok_iff.mpr
      fun spec mem =>
        (EnricherSpec.exists_enricher_iff indexed).mpr ⟨readable spec mem, fields_known spec mem⟩
    refine ⟨⟨binding, enrichers, pipeline.dates, pipeline.idField⟩, ?_⟩
    rw [builder_eq]
    exact bind_eq_ok.mpr ⟨binding, bound, bind_eq_ok.mpr ⟨mapping, resolved, bind_eq_ok.mpr
      ⟨(), (requireId_eq_ok_iff indexed).mpr id_known, bind_eq_ok.mpr ⟨enrichers, enrichers_made, rfl⟩⟩⟩⟩

/-- **What is refused is refused as a configuration.** -/
theorem builder_isConfiguration {error : IngestError} (h : pipeline.builder = .error error) :
    error.isConfiguration = true := by
  rw [builder_eq] at h
  rcases bind_eq_error.mp h with unbound | ⟨binding, -, h⟩
  · exact Binding.derive_isConfiguration unbound
  rcases bind_eq_error.mp h with unresolved | ⟨mapping, -, h⟩
  · exact Index.resolve_isConfiguration unresolved
  rcases bind_eq_error.mp h with unknown_id | ⟨done, -, h⟩
  · exact requireId_isConfiguration unknown_id
  rcases bind_eq_error.mp h with not_made | ⟨enrichers, -, impossible⟩
  · obtain ⟨spec, -, failed⟩ := exists_of_mapM_eq_error not_made
    exact EnricherSpec.enricher_isConfiguration failed
  · cases impossible

/-- **Exactly the fields of sources without paths go unchecked.** A pipeline is accepted if the
mapping of its document type resolves, no path is empty, the patterns are in order, and every field
that it mentions is known, but for the fields of sources without paths: those sources are passed
over. So an accepted pipeline knows all fields that it mentions if and only if it knows those of its
sources without paths. A pipeline that is refused, for its binding or for anything else, is refused
with an error of configuration. -/
theorem accepted_knows_mentioned_iff (pipeline : Pipeline) :
    ((∃ builder, pipeline.builder = .ok builder) ↔
      ∃ mapping, pipeline.index.resolve pipeline.docType = .ok mapping ∧
        (∀ name ∈ pipeline.passingOver.mentioned, mapping.contains name = true) ∧
        (∀ source ∈ pipeline.sources, "" ∉ source.paths) ∧ "" ∉ pipeline.identity ∧
        ∀ spec ∈ pipeline.enrichers, spec.HasReadablePattern) ∧
    pipeline.passingOver.builder = pipeline.builder ∧
    (∀ builder, pipeline.builder = .ok builder →
      ∃ mapping, pipeline.index.resolve pipeline.docType = .ok mapping ∧
        ((∀ name ∈ pipeline.mentioned, mapping.contains name = true) ↔
          ∀ source ∈ pipeline.sources, source.paths = [] →
            mapping.contains source.field = true)) ∧
    ∀ error, pipeline.bind = .error error ∨ pipeline.builder = .error error →
      error.isConfiguration = true := by
  refine ⟨exists_builder_iff, builder_passingOver pipeline, fun builder made => ?_, ?_⟩
  · obtain ⟨mapping, resolved, known, -⟩ := exists_builder_iff.mp ⟨builder, made⟩
    refine ⟨mapping, resolved, ?_⟩
    constructor
    · intro all_known source mem idle
      exact all_known source.field (mem_mentioned_iff.mpr (.inr ⟨source, mem, idle, rfl⟩))
    · intro idle_known name mem
      rcases mem_mentioned_iff.mp mem with checked | ⟨source, source_mem, idle, rfl⟩
      · exact known name checked
      · exact idle_known source source_mem idle
  · rintro error (unbound | refused)
    · exact Binding.derive_isConfiguration unbound
    · exact builder_isConfiguration refused

/-- Books with an ISBN and a number of words. -/
def countedMapping : Mapping where
  name := "book"
  fields := [Field.ofType "isbn" .keyword, Field.ofType "words" .integer]
  positions := [("isbn", 0), ("words", 1)]

/-- A source of no paths for a field that books do not have. -/
def ghostPipeline : Pipeline where
  index := (Index.empty "library").withMapping countedMapping rfl
  docType := "book"
  sources := [⟨"ghost", []⟩]
  identity := ["isbn"]
  idField := some "isbn"
  dates := .textOnly
  enrichers := [.tokenCount "words"]

/-- **A field that no book has is mentioned, and accepted.** With a path it is refused. -/
theorem accepted_knows_mentioned_ghost :
    (∃ builder, ghostPipeline.builder = .ok builder) ∧
      ¬ (∀ mapping, ghostPipeline.index.resolve "book" = .ok mapping →
        ∀ name ∈ ghostPipeline.mentioned, mapping.contains name = true) ∧
      { ghostPipeline with sources := [⟨"ghost", ["boo"]⟩] }.builder =
        .error (.unknownField "ghost" "book") ∧
      IngestError.isConfiguration (.unknownField "ghost" "book") = true := by
  obtain ⟨accepted, -, knows, -⟩ := accepted_knows_mentioned_iff ghostPipeline
  obtain ⟨-, -, -, refused⟩ :=
    accepted_knows_mentioned_iff { ghostPipeline with sources := [⟨"ghost", ["boo"]⟩] }
  have made : ∃ builder, ghostPipeline.builder = .ok builder :=
    accepted.mpr ⟨_, rfl, by decide +kernel, by decide +kernel, by decide +kernel, by
      simp [ghostPipeline, EnricherSpec.HasReadablePattern]⟩
  have unknown : { ghostPipeline with sources := [⟨"ghost", ["boo"]⟩] }.builder =
      .error (.unknownField "ghost" "book") := rfl
  refine ⟨made, ?_, unknown, refused _ (.inr unknown)⟩
  intro all_known
  obtain ⟨builder, made⟩ := made
  obtain ⟨mapping, resolved, knows_iff⟩ := knows builder made
  have ghost_known := knows_iff.mp (all_known mapping resolved) ⟨"ghost", []⟩ (by decide) rfl
  obtain rfl := Except.ok.inj resolved
  exact absurd ghost_known (by decide +kernel)

end Pipeline

end Intake
