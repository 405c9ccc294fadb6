import GatewayControl.Proofs.Census

/-!
The type system of a schema document, said of the document as it stands. A document is coherent if the
names in it are used once and everything it refers to is there. A type system is then made of it unless
an extension repeats a field, and the type system has what the document describes.
-/

namespace GatewayControl.GraphQL

section

variable (definitions : List Definition)

def objectNames : List String := (objectDefinitions definitions).map ObjectType.name

def Known (name : String) : Prop := name ∈ builtinScalars ∨ name ∈ definedNames definitions

/-- The object types in the order of their definitions, each with the fields of its extensions after
its own. -/
def describedObjects : List ObjectType :=
  (objectDefinitions definitions).map fun object =>
    object.adding (additions (objectExtensions definitions) object.name)

/-- The root of a kind: the one declared last, or else the object type of the usual name. -/
def describedRoot (kind : OperationKind) (usual : String) : Option String :=
  (lastRoot definitions kind).or (if usual ∈ objectNames definitions then some usual else none)

structure Coherent : Prop where
  distinct : (definedNames definitions).Nodup
  extended : ∀ extension ∈ objectExtensions definitions, extension.type ∈ objectNames definitions
  known : ∀ type ∈ typeDefinitions definitions, ∀ field ∈ type.body.fields,
    Known definitions field.type.base ∧
      ∀ argument ∈ field.arguments, Known definitions argument.type.base
  query : (lastRoot definitions .query).getD "Query" ∈ objectNames definitions
  mutation : ∀ name ∈ lastRoot definitions .mutation, name ∈ objectNames definitions
  subscription : ∀ name ∈ lastRoot definitions .subscription, name ∈ objectNames definitions

def Extensible : Prop :=
  ∀ object ∈ objectDefinitions definitions,
    object.Accepts (additions (objectExtensions definitions) object.name)

structure TypeSystem.Describes (system : TypeSystem) : Prop where
  objectTypes : system.objectTypes = describedObjects definitions
  otherTypes : ∀ name, name ∈ system.otherTypes ↔ name ∈ otherNames definitions
  queryType : system.queryType = (lastRoot definitions .query).getD "Query"
  mutationType : system.mutationType = describedRoot definitions .mutation "Mutation"
  subscriptionType : system.subscriptionType = describedRoot definitions .subscription "Subscription"

end

variable {definitions : List Definition} {system : TypeSystem} {census : Census}

/-! Checks on a census. -/

theorem forall_typeUses_iff {holds : String → Prop} :
    (∀ use ∈ typeUses definitions, holds use.type) ↔
      ∀ type ∈ typeDefinitions definitions, ∀ field ∈ type.body.fields,
        holds field.type.base ∧ ∀ argument ∈ field.arguments, holds argument.type.base := by
  simp only [typeUses, FieldDefinition.uses, List.forall_mem_flatMap, List.forall_mem_cons,
    List.forall_mem_map]

theorem Census.Counts.definesObject_iff (counts : census.Counts definitions) {name : String} :
    census.definesObject name = true ↔ name ∈ objectNames definitions := by
  rw [Census.definesObject, counts.objects, objectNames]
  simp

theorem TypeSystem.optionalRoot_eq_ok_iff {isObject : String → Bool} {usual : String}
    {declared root : Option String} :
    optionalRoot isObject usual declared = .ok root ↔
      (∀ name ∈ declared, isObject name = true) ∧
        root = declared.or (if isObject usual then some usual else none) := by
  cases declared with
  | none =>
      rw [optionalRoot, Except.ok.injEq, eq_comm]
      simp
  | some name =>
      rw [optionalRoot]
      cases own : isObject name <;> simp [own, @eq_comm _ (some name)]

theorem TypeSystem.ofDefinitions_eq_ok_iff_census :
    ofDefinitions definitions = .ok system ↔
      ∃ census, Census.ofDefinitions definitions = .ok census ∧
        applyExtensions census.objects census.extensions = .ok system.objectTypes ∧
        (∀ use ∈ census.uses, use.type ∈ builtinScalars ∨ census.defines use.type = true) ∧
        census.definesObject (census.queryRoot.getD "Query") = true ∧
        system.queryType = census.queryRoot.getD "Query" ∧
        optionalRoot census.definesObject "Mutation" census.mutationRoot = .ok system.mutationType ∧
        optionalRoot census.definesObject "Subscription" census.subscriptionRoot =
          .ok system.subscriptionType ∧
        system.otherTypes = census.others := by
  rw [ofDefinitions, bind_eq_ok_iff]
  refine exists_congr fun census => and_congr_right fun _ => ?_
  simp only [bind_eq_ok_iff]
  -- The checks in their order: the first use of an unknown type, then the query root.
  cases unknown : census.uses.find? fun use =>
      !(decide (use.type ∈ builtinScalars) || census.defines use.type) with
  | some use =>
      have stray : use.type ∉ builtinScalars ∧ census.defines use.type = false := by
        simpa using List.find?_some unknown
      constructor
      · rintro ⟨objects, -, ⟨⟩⟩
      · rintro ⟨-, known, -⟩
        rcases known use (List.mem_of_find?_eq_some unknown) with builtin | defined
        · exact (stray.1 builtin).elim
        · exact (Bool.eq_false_iff.1 stray.2 defined).elim
  | none =>
      have known : ∀ use ∈ census.uses,
          use.type ∈ builtinScalars ∨ census.defines use.type = true := by
        simpa [List.find?_eq_none, or_iff_not_imp_left] using unknown
      cases query : census.definesObject (census.queryRoot.getD "Query") with
      | false =>
          constructor
          · rintro ⟨objects, -, ⟨⟩⟩
          · rintro ⟨-, -, ⟨⟩, -⟩
      | true =>
          simp only [Bool.not_true, Bool.false_eq_true, if_false, bind_eq_ok_iff]
          constructor
          · rintro ⟨objects, extended, mutation, mutated, subscription, subscribed, ⟨⟩⟩
            exact ⟨extended, known, trivial, rfl, mutated, subscribed, rfl⟩
          · rintro ⟨extended, -, -, usual, mutated, subscribed, others⟩
            refine ⟨_, extended, _, mutated, _, subscribed, ?_⟩
            rw [← usual, ← others]
            rfl

/-! Whole documents. -/

theorem nodup_objectNames (distinct : (definedNames definitions).Nodup) :
    (objectNames definitions).Nodup := by
  refine distinct.sublist ?_
  rw [objectNames, objectDefinitions, definedNames, List.map_map, ← List.filter_filter]
  exact List.filter_sublist.map _

theorem Census.Counts.uses_known_iff (counts : census.Counts definitions) :
    (∀ use ∈ census.uses, use.type ∈ builtinScalars ∨ census.defines use.type = true) ↔
      ∀ type ∈ typeDefinitions definitions, ∀ field ∈ type.body.fields,
        Known definitions field.type.base ∧
          ∀ argument ∈ field.arguments, Known definitions argument.type.base := by
  rw [counts.uses, ← forall_typeUses_iff]
  simp only [counts.defines_iff]
  rfl

theorem Census.Counts.optionalRoot_iff (counts : census.Counts definitions) {kind : OperationKind}
    {usual : String} {root : Option String} :
    TypeSystem.optionalRoot census.definesObject usual (lastRoot definitions kind) = .ok root ↔
      (∀ name ∈ lastRoot definitions kind, name ∈ objectNames definitions) ∧
        root = describedRoot definitions kind usual := by
  simp only [TypeSystem.optionalRoot_eq_ok_iff, counts.definesObject_iff, describedRoot]

theorem Census.Counts.applyExtensions_iff (counts : census.Counts definitions)
    (distinct : (objectNames definitions).Nodup) {objects : List ObjectType} :
    applyExtensions census.objects census.extensions = .ok objects ↔
      (∀ extension ∈ objectExtensions definitions, extension.type ∈ objectNames definitions) ∧
        Extensible definitions ∧ objects = describedObjects definitions := by
  rw [counts.objects, counts.extensions, applyExtensions_eq_ok_iff distinct]
  rfl

theorem Census.Counts.others_iff (counts : census.Counts definitions) {names : NameSet} :
    names = census.others ↔ ∀ name, name ∈ names ↔ name ∈ otherNames definitions := by
  simp only [← counts.others]
  exact ⟨fun same _ => same ▸ Iff.rfl, NameMap.eq_of_mem_iff⟩

/-- A document makes up a type system if it is coherent and no extension repeats a field; the type
system is then the one it describes. -/
theorem TypeSystem.ofDefinitions_eq_ok_iff
    (sound : ∀ definition ∈ definitions, definition.fault = none) :
    ofDefinitions definitions = .ok system ↔
      Coherent definitions ∧ Extensible definitions ∧ system.Describes definitions := by
  rw [ofDefinitions_eq_ok_iff_census]
  constructor
  · rintro ⟨census, counted, extended, known, query, usual, mutation, subscription, others⟩
    have counts := Census.counts_of_ofDefinitions sound counted
    have distinct := (Census.ofDefinitions_isOk_iff sound).1 ⟨census, counted⟩
    rw [counts.applyExtensions_iff (nodup_objectNames distinct)] at extended
    rw [counts.uses_known_iff] at known
    rw [counts.queryRoot, counts.definesObject_iff] at query
    rw [counts.queryRoot] at usual
    rw [counts.mutationRoot, counts.optionalRoot_iff] at mutation
    rw [counts.subscriptionRoot, counts.optionalRoot_iff] at subscription
    exact ⟨⟨distinct, extended.1, known, query, mutation.1, subscription.1⟩, extended.2.1,
      ⟨extended.2.2, counts.others_iff.1 others, usual, mutation.2, subscription.2⟩⟩
  · rintro ⟨coherent, extensible, describes⟩
    obtain ⟨census, counted⟩ := (Census.ofDefinitions_isOk_iff sound).2 coherent.distinct
    have counts := Census.counts_of_ofDefinitions sound counted
    refine ⟨census, counted, ?extended, counts.uses_known_iff.2 coherent.known, ?query, ?usual,
      ?mutation, ?subscription, counts.others_iff.2 describes.otherTypes⟩
    case extended =>
      exact (counts.applyExtensions_iff (nodup_objectNames coherent.distinct)).2
        ⟨coherent.extended, extensible, describes.objectTypes⟩
    case query => exact counts.queryRoot ▸ counts.definesObject_iff.2 coherent.query
    case usual => exact counts.queryRoot ▸ describes.queryType
    case mutation =>
      exact counts.mutationRoot ▸ counts.optionalRoot_iff.2 ⟨coherent.mutation, describes.mutationType⟩
    case subscription =>
      exact counts.subscriptionRoot ▸
        counts.optionalRoot_iff.2 ⟨coherent.subscription, describes.subscriptionType⟩

theorem exists_describes (definitions : List Definition) :
    ∃ system : TypeSystem, system.Describes definitions := by
  refine ⟨{
    queryType := (lastRoot definitions .query).getD "Query"
    mutationType := describedRoot definitions .mutation "Mutation"
    subscriptionType := describedRoot definitions .subscription "Subscription"
    objectTypes := describedObjects definitions
    otherTypes := (otherNames definitions).foldl (fun others name => others.insert name ()) ∅ },
    rfl, fun name => ?_, rfl, rfl, rfl⟩
  rw [Census.mem_foldl_insert]
  exact or_iff_left nofun

theorem extensible_of_nodup
    (single : ∀ object ∈ describedObjects definitions, object.fieldNames.Nodup) :
    Extensible definitions := by
  intro object member
  exact (ObjectType.nodup_adding.1 (single _ (List.mem_map_of_mem member))).2

/-! Sources. -/

theorem sound_of_read {source : String} (read : readSchemaDocument source = .ok definitions) :
    ∀ definition ∈ definitions, definition.fault = none := by
  delta readSchemaDocument at read
  split at read
  · cases read
  · split at read
    · cases read
    · rename_i nowhere
      cases read
      exact List.findSome?_eq_none_iff.1 nowhere

namespace TypeSystem

variable {source : String}

theorem parse_eq_ok_iff (read : readSchemaDocument source = .ok definitions) :
    parse source = .ok system ↔
      Coherent definitions ∧ Extensible definitions ∧ system.Describes definitions := by
  rw [parse_eq, read]
  exact ofDefinitions_eq_ok_iff (sound_of_read read)

theorem read_of_parse (parsed : parse source = .ok system) :
    ∃ definitions, readSchemaDocument source = .ok definitions := by
  rw [parse_eq] at parsed
  cases read : readSchemaDocument source with
  | error fault =>
      rw [read] at parsed
      cases parsed
  | ok definitions => exact ⟨definitions, rfl⟩

theorem parse_distinct (parsed : parse source = .ok system) :
    (system.objectTypes.map ObjectType.name).Nodup := by
  obtain ⟨definitions, read⟩ := read_of_parse parsed
  obtain ⟨coherent, -, describes⟩ := (parse_eq_ok_iff read).1 parsed
  rw [describes.objectTypes, describedObjects, names_adding]
  exact nodup_objectNames coherent.distinct

/-- Only coherent documents are accepted, and the type system has what they describe. All of them are
accepted in which no object type has a field twice. -/
theorem parse_coherent (read : readSchemaDocument source = .ok definitions) :
    (∀ system, parse source = .ok system → Coherent definitions ∧ system.Describes definitions) ∧
      (Coherent definitions → (∀ object ∈ describedObjects definitions, object.fieldNames.Nodup) →
        ∃ system, parse source = .ok system) := by
  constructor
  · intro system parsed
    obtain ⟨coherent, -, describes⟩ := (parse_eq_ok_iff read).1 parsed
    exact ⟨coherent, describes⟩
  · intro coherent single
    obtain ⟨system, describes⟩ := exists_describes definitions
    exact ⟨system, (parse_eq_ok_iff read).2 ⟨coherent, extensible_of_nodup single, describes⟩⟩

/-- An extension before its type, uses of types before their definitions, lists, and a query root that
is declared again. -/
def scatteredSource : String :=
  "extend type Root \x7b second(filter: [Filter!]!): [[Item!]!] \x7d " ++
  "schema \x7b query: Item mutation: Item \x7d " ++
  "type Root \x7b first: ID! \x7d " ++
  "extend schema \x7b query: Root \x7d " ++
  "extend type Root \x7b third: Item \x7d " ++
  "type Item \x7b name: String \x7d " ++
  "scalar Filter " ++
  "type Subscription \x7b changed: Item \x7d"

theorem scattered_source_described :
    ∃ definitions system, readSchemaDocument scatteredSource = .ok definitions ∧
      parse scatteredSource = .ok system ∧
      Coherent definitions ∧ system.Describes definitions ∧
      system.queryType = "Root" ∧ system.mutationType = some "Item" ∧
      system.subscriptionType = some "Subscription" ∧
      (system.objectTypes.map fun object => (object.name, object.fieldNames)) =
        [("Root", ["first", "second", "third"]), ("Item", ["name"]), ("Subscription", ["changed"])] := by
  have accepted : ((parse scatteredSource).toOption.any fun system =>
      system.queryType = "Root" ∧ system.mutationType = some "Item" ∧
      system.subscriptionType = some "Subscription" ∧
      (system.objectTypes.map fun object => (object.name, object.fieldNames)) =
        [("Root", ["first", "second", "third"]), ("Item", ["name"]), ("Subscription", ["changed"])]) =
      true := by decide +kernel
  obtain ⟨system, parsed, shown⟩ := exists_ok_of_any accepted
  obtain ⟨definitions, read⟩ := read_of_parse parsed
  obtain ⟨coherent, describes⟩ := (parse_coherent read).1 system parsed
  exact ⟨definitions, system, read, parsed, coherent, describes, of_decide_eq_true shown⟩

end TypeSystem

end GatewayControl.GraphQL
