import GatewayControl.Proofs.Catalog
import GatewayControl.Proofs.Extensions

/-!
What a schema document declares, read off its definitions. A census of them takes them one by one and
stops at the second one of a name, so it gets through a document exactly if the names of its
definitions are all different, and then has what the document declares.
-/

namespace GatewayControl.GraphQL

/-! What is declared. -/

def Definition.type? : Definition → Option TypeDefinition
  | .type defined => some defined
  | .schema _ | .directive _ => none

def Definition.roots : Definition → List RootDeclaration
  | .schema declared => declared.roots
  | .type _ | .directive _ => []

def TypeBody.isObject : TypeBody → Bool
  | .object _ _ => true
  | .scalar | .interface _ _ | .union _ | .enumeration _ | .input _ => false

def TypeBody.fields : TypeBody → List FieldDefinition
  | .object _ fields | .interface _ fields => fields
  | .scalar | .union _ | .enumeration _ | .input _ => []

def TypeDefinition.objectFields (type : TypeDefinition) : List ObjectField :=
  type.body.fields.map FieldDefinition.objectField

section

variable (definitions : List Definition)

/-- The type definitions of a document and the extensions of types, in its order. -/
def typeDefinitions : List TypeDefinition := definitions.filterMap Definition.type?

def definedNames : List String :=
  ((typeDefinitions definitions).filter fun type => !type.extension).map TypeDefinition.name

def objectDefinitions : List ObjectType :=
  ((typeDefinitions definitions).filter fun type => type.body.isObject && !type.extension).map
    fun type => ⟨type.name, type.objectFields⟩

def objectExtensions : List Extension :=
  ((typeDefinitions definitions).filter fun type => type.body.isObject && type.extension).map
    fun type => ⟨type.name, type.objectFields⟩

def otherNames : List String :=
  ((typeDefinitions definitions).filter fun type => !type.body.isObject && !type.extension).map
    TypeDefinition.name

def typeUses : List TypeUse :=
  (typeDefinitions definitions).flatMap fun type =>
    type.body.fields.flatMap (FieldDefinition.uses type.name)

def lastRoot (kind : OperationKind) : Option String :=
  (((definitions.flatMap Definition.roots).filter fun root => root.kind = kind).getLast?).map
    RootDeclaration.type

end

section

variable (first second : List Definition)

@[simp] theorem typeDefinitions_append :
    typeDefinitions (first ++ second) = typeDefinitions first ++ typeDefinitions second :=
  List.filterMap_append

@[simp] theorem definedNames_append :
    definedNames (first ++ second) = definedNames first ++ definedNames second := by
  simp [definedNames]

@[simp] theorem objectDefinitions_append :
    objectDefinitions (first ++ second) = objectDefinitions first ++ objectDefinitions second := by
  simp [objectDefinitions]

@[simp] theorem objectExtensions_append :
    objectExtensions (first ++ second) = objectExtensions first ++ objectExtensions second := by
  simp [objectExtensions]

@[simp] theorem otherNames_append :
    otherNames (first ++ second) = otherNames first ++ otherNames second := by
  simp [otherNames]

@[simp] theorem typeUses_append : typeUses (first ++ second) = typeUses first ++ typeUses second := by
  simp [typeUses]

/-- A later root takes the place of an earlier one. -/
theorem lastRoot_append (kind : OperationKind) :
    lastRoot (first ++ second) kind = (lastRoot second kind).or (lastRoot first kind) := by
  rw [lastRoot, List.flatMap_append, List.filter_append, List.getLast?_append, Option.map_or]
  rfl

end

theorem mem_definedNames {definitions : List Definition} {name : String} :
    name ∈ definedNames definitions ↔
      name ∈ (objectDefinitions definitions).map ObjectType.name ∨ name ∈ otherNames definitions := by
  simp only [definedNames, objectDefinitions, otherNames, List.map_map, List.mem_map,
    List.mem_filter, Function.comp_apply]
  constructor
  · rintro ⟨type, ⟨member, own⟩, rfl⟩
    cases kind : type.body.isObject with
    | true => exact .inl ⟨type, ⟨member, by simpa [kind] using own⟩, rfl⟩
    | false => exact .inr ⟨type, ⟨member, by simpa [kind] using own⟩, rfl⟩
  · rintro (⟨type, ⟨member, own⟩, rfl⟩ | ⟨type, ⟨member, own⟩, rfl⟩)
    · exact ⟨type, ⟨member, (Bool.and_eq_true_iff.1 own).2⟩, rfl⟩
    · exact ⟨type, ⟨member, (Bool.and_eq_true_iff.1 own).2⟩, rfl⟩

/-! Roots of one definition. -/

theorem nodup_kinds_of_repeatedRoot {roots : List RootDeclaration} {seen : List OperationKind}
    (single : repeatedRoot seen roots = none) :
    (roots.map RootDeclaration.kind).Nodup ∧ ∀ root ∈ roots, root.kind ∉ seen := by
  induction roots generalizing seen with
  | nil => exact ⟨List.nodup_nil, nofun⟩
  | cons root roots ih =>
      rw [repeatedRoot] at single
      split at single
      · cases single
      · rename_i fresh
        obtain ⟨distinct, later⟩ := ih single
        refine ⟨List.nodup_cons.2 ⟨?_, distinct⟩, ?_⟩
        · intro again
          obtain ⟨other, member, same⟩ := List.mem_map.1 again
          exact later other member (same ▸ List.mem_cons_self)
        · rintro other (_ | ⟨_, member⟩)
          · exact fresh
          · exact fun taken => later other member (List.mem_cons_of_mem _ taken)

theorem getLast?_roots {roots : List RootDeclaration} (kind : OperationKind)
    (distinct : (roots.map RootDeclaration.kind).Nodup) :
    ((roots.filter fun root => root.kind = kind).getLast?).map RootDeclaration.type =
      rootOf kind roots := by
  induction roots with
  | nil => rfl
  | cons root roots ih =>
      obtain ⟨fresh, distinct⟩ := List.nodup_cons.1 distinct
      by_cases own : root.kind = kind
      · -- A later root of the kind would repeat it, so this is the last one too.
        have noRoots : (roots.filter fun other => other.kind = kind) = [] := by
          rw [List.filter_eq_nil_iff]
          intro other member
          rw [decide_eq_true_eq]
          intro same
          exact fresh (own.trans same.symm ▸ List.mem_map_of_mem member)
        simp [rootOf, own, noRoots]
      · have rest := ih distinct
        rw [rootOf] at rest ⊢
        simpa [own] using rest

theorem nodup_kinds_of_fault {schema : SchemaDefinition} (sound : schema.fault = none) :
    (schema.roots.map RootDeclaration.kind).Nodup := by
  rw [SchemaDefinition.fault] at sound
  split at sound
  · cases sound
  · split at sound
    · cases sound
    · rename_i single
      exact (nodup_kinds_of_repeatedRoot single).1

/-! The census. -/

namespace Census

structure Counts (census : Census) (definitions : List Definition) : Prop where
  queryRoot : census.queryRoot = lastRoot definitions .query
  mutationRoot : census.mutationRoot = lastRoot definitions .mutation
  subscriptionRoot : census.subscriptionRoot = lastRoot definitions .subscription
  objects : census.objects = objectDefinitions definitions
  others : ∀ name, name ∈ census.others ↔ name ∈ otherNames definitions
  extensions : census.extensions = objectExtensions definitions
  uses : census.uses = typeUses definitions

variable {census after : Census} {before : List Definition}

theorem counts_nil : ({} : Census).Counts [] := by
  refine ⟨rfl, rfl, rfl, rfl, fun name => ?_, rfl, rfl⟩
  exact ⟨nofun, nofun⟩

theorem Counts.defines_iff (counts : census.Counts before) {name : String} :
    census.defines name = true ↔ name ∈ definedNames before := by
  rw [mem_definedNames, ← counts.others name, ← counts.objects]
  simp only [defines, definesObject, Bool.or_eq_true, List.any_eq_true, decide_eq_true_eq, List.mem_map]
  rfl

/-- The census with a type taken up, whether or not its name is taken. -/
def take (census : Census) (type : TypeDefinition) : Census where
  queryRoot := census.queryRoot
  mutationRoot := census.mutationRoot
  subscriptionRoot := census.subscriptionRoot
  objects := census.objects ++ objectDefinitions [.type type]
  others := (otherNames [.type type]).foldl (fun others name => others.insert name ()) census.others
  extensions := census.extensions ++ objectExtensions [.type type]
  uses := census.uses ++ typeUses [.type type]

@[simp] theorem defines_addUses (name type : String) (fields : List FieldDefinition) :
    (census.addUses type fields).defines name = census.defines name := rfl

theorem add_type (census : Census) (type : TypeDefinition) :
    census.add (.type type) =
      if !type.extension && census.defines type.name then .error (.repeatedType type.name)
      else .ok (census.take type) := by
  obtain ⟨extension, name, directives, body⟩ := type
  -- Uses are noted before the name is looked up, which does not depend on them.
  cases body <;> cases extension <;> cases taken : census.defines name <;>
    simp only [add, addObject, addOther, defines_addUses, taken] <;>
    simp [take, addUses, objectDefinitions, objectExtensions, otherNames, typeUses, typeDefinitions,
      Definition.type?, TypeBody.isObject, TypeBody.fields, TypeDefinition.objectFields]

theorem mem_foldl_insert {names : List String} {others : NameSet} {name : String} :
    name ∈ names.foldl (fun others name => others.insert name ()) others ↔
      name ∈ names ∨ name ∈ others := by
  induction names generalizing others with
  | nil => simp
  | cons first names ih =>
      rw [List.foldl_cons, ih, NameMap.mem_insert, List.mem_cons]
      grind

/-! One more definition. -/

theorem Counts.of_typeless (counts : census.Counts before) (definition : Definition)
    (typeless : typeDefinitions [definition] = []) :
    census.objects = objectDefinitions (before ++ [definition]) ∧
      (∀ name, name ∈ census.others ↔ name ∈ otherNames (before ++ [definition])) ∧
      census.extensions = objectExtensions (before ++ [definition]) ∧
      census.uses = typeUses (before ++ [definition]) := by
  have same : typeDefinitions (before ++ [definition]) = typeDefinitions before := by
    rw [typeDefinitions_append, typeless, List.append_nil]
  simp only [objectDefinitions, otherNames, objectExtensions, typeUses, same]
  exact ⟨counts.objects, counts.others, counts.extensions, counts.uses⟩

theorem Counts.addSchema (counts : census.Counts before) {schema : SchemaDefinition}
    (sound : schema.fault = none) : (census.addSchema schema).Counts (before ++ [.schema schema]) := by
  have last (kind : OperationKind) : lastRoot [.schema schema] kind = rootOf kind schema.roots := by
    rw [lastRoot, List.flatMap_singleton]
    exact getLast?_roots kind (nodup_kinds_of_fault sound)
  obtain ⟨objects, others, extensions, uses⟩ :=
    counts.of_typeless (.schema schema) rfl
  refine ⟨?query, ?mutation, ?subscription, objects, others, extensions, uses⟩
  case query => rw [lastRoot_append, last, ← counts.queryRoot]; rfl
  case mutation => rw [lastRoot_append, last, ← counts.mutationRoot]; rfl
  case subscription => rw [lastRoot_append, last, ← counts.subscriptionRoot]; rfl

theorem lastRoot_of_rootless {definition : Definition} (rootless : definition.roots = [])
    (kind : OperationKind) : lastRoot (before ++ [definition]) kind = lastRoot before kind := by
  rw [lastRoot_append, lastRoot, List.flatMap_singleton, rootless]
  rfl

theorem Counts.addDirective (counts : census.Counts before) (directive : DirectiveDefinition) :
    census.Counts (before ++ [.directive directive]) := by
  obtain ⟨objects, others, extensions, uses⟩ :=
    counts.of_typeless (.directive directive) rfl
  refine ⟨?query, ?mutation, ?subscription, objects, others, extensions, uses⟩
  case query => rw [lastRoot_of_rootless rfl, counts.queryRoot]
  case mutation => rw [lastRoot_of_rootless rfl, counts.mutationRoot]
  case subscription => rw [lastRoot_of_rootless rfl, counts.subscriptionRoot]

theorem Counts.take (counts : census.Counts before) (type : TypeDefinition) :
    (census.take type).Counts (before ++ [.type type]) := by
  constructor
  case queryRoot =>
    rw [lastRoot_of_rootless rfl, ← counts.queryRoot]
    rfl
  case mutationRoot =>
    rw [lastRoot_of_rootless rfl, ← counts.mutationRoot]
    rfl
  case subscriptionRoot =>
    rw [lastRoot_of_rootless rfl, ← counts.subscriptionRoot]
    rfl
  case objects =>
    rw [objectDefinitions_append, ← counts.objects]
    rfl
  case others =>
    intro name
    rw [otherNames_append, List.mem_append, ← counts.others name, or_comm]
    exact mem_foldl_insert
  case extensions =>
    rw [objectExtensions_append, ← counts.extensions]
    rfl
  case uses =>
    rw [typeUses_append, ← counts.uses]
    rfl

theorem definedNames_type (type : TypeDefinition) :
    definedNames [.type type] = if type.extension then [] else [type.name] := by
  cases own : type.extension <;> simp [definedNames, typeDefinitions, Definition.type?, own]

theorem Counts.add_isOk_iff (counts : census.Counts before) {definition : Definition} :
    (∃ after, census.add definition = .ok after) ↔
      ∀ name ∈ definedNames [definition], name ∉ definedNames before := by
  cases definition with
  | schema schema => exact ⟨fun _ => nofun, fun _ => ⟨_, rfl⟩⟩
  | directive directive => exact ⟨fun _ => nofun, fun _ => ⟨_, rfl⟩⟩
  | type type =>
      rw [add_type, definedNames_type]
      cases own : type.extension with
      | true => simp
      | false => cases taken : census.defines type.name <;> simp [← counts.defines_iff, taken]

theorem Counts.add (counts : census.Counts before) {definition : Definition}
    (sound : definition.fault = none) (added : census.add definition = .ok after) :
    after.Counts (before ++ [definition]) := by
  cases definition with
  | schema schema =>
      cases added
      exact counts.addSchema sound
  | directive directive =>
      cases added
      exact counts.addDirective directive
  | type type =>
      rw [add_type] at added
      split at added
      · cases added
      · cases added
        exact counts.take type

theorem nodup_definedNames_snoc {definition : Definition} :
    (definedNames (before ++ [definition])).Nodup ↔
      (definedNames before).Nodup ∧ ∀ name ∈ definedNames [definition], name ∉ definedNames before := by
  have single : (definedNames [definition]).Nodup := by
    cases definition with
    | schema schema => exact List.nodup_nil
    | directive directive => exact List.nodup_nil
    | type type =>
        rw [definedNames_type]
        split
        · exact List.nodup_nil
        · exact List.nodup_singleton _
  rw [definedNames_append, List.nodup_append_comm, List.nodup_append']
  simp only [single, true_and, List.disjoint_left]

/-! Whole documents. -/

theorem Counts.foldlM {rest : List Definition} (counts : census.Counts before)
    (sound : ∀ definition ∈ rest, definition.fault = none)
    (taken : rest.foldlM Census.add census = .ok after) : after.Counts (before ++ rest) := by
  induction rest generalizing census before with
  | nil =>
      cases taken
      rw [List.append_nil]
      exact counts
  | cons definition rest ih =>
      obtain ⟨own, sound⟩ := List.forall_mem_cons.1 sound
      rw [List.foldlM_cons, bind_eq_ok_iff] at taken
      obtain ⟨middle, added, taken⟩ := taken
      rw [List.append_cons]
      exact ih (counts.add own added) sound taken

theorem Counts.foldlM_isOk_iff {rest : List Definition} (counts : census.Counts before)
    (sound : ∀ definition ∈ rest, definition.fault = none)
    (distinct : (definedNames before).Nodup) :
    (∃ after, rest.foldlM Census.add census = .ok after) ↔ (definedNames (before ++ rest)).Nodup := by
  induction rest generalizing census before with
  | nil =>
      rw [List.append_nil]
      exact ⟨fun _ => distinct, fun _ => ⟨census, rfl⟩⟩
  | cons definition rest ih =>
      obtain ⟨own, sound⟩ := List.forall_mem_cons.1 sound
      simp only [List.foldlM_cons, bind_eq_ok_iff]
      rw [List.append_cons]
      constructor
      · rintro ⟨after, middle, added, taken⟩
        have fresh := counts.add_isOk_iff.1 ⟨middle, added⟩
        exact (ih (counts.add own added) sound (nodup_definedNames_snoc.2 ⟨distinct, fresh⟩)).1
          ⟨after, taken⟩
      · intro all
        have here : (definedNames (before ++ [definition])).Nodup := by
          rw [definedNames_append] at all
          exact all.of_append_left
        obtain ⟨middle, added⟩ := counts.add_isOk_iff.2 (nodup_definedNames_snoc.1 here).2
        obtain ⟨after, taken⟩ := (ih (counts.add own added) sound here).2 all
        exact ⟨after, middle, added, taken⟩

/-- The census of a document succeeds if the names in it are all different, and is then right. -/
theorem ofDefinitions_isOk_iff {definitions : List Definition}
    (sound : ∀ definition ∈ definitions, definition.fault = none) :
    (∃ census, ofDefinitions definitions = .ok census) ↔ (definedNames definitions).Nodup :=
  counts_nil.foldlM_isOk_iff sound List.nodup_nil

theorem counts_of_ofDefinitions {definitions : List Definition}
    (sound : ∀ definition ∈ definitions, definition.fault = none)
    (counted : ofDefinitions definitions = .ok census) : census.Counts definitions :=
  counts_nil.foldlM sound counted

end Census

end GatewayControl.GraphQL
