import GatewayControl.Proofs.Coherence
import Mathlib.Data.List.Perm.Basic

/-!
The order of a schema document. As long as no root is declared twice, the definitions can stand in
any order: the document is accepted or not as before, and has the same types with the same fields.
In any document the fields that extensions declare can be moved into the definitions of the object
types, and then the type system is the same one.
-/

namespace GatewayControl.GraphQL

def SingleRoots (definitions : List Definition) : Prop :=
  definitions.Pairwise fun earlier later =>
    ∀ root ∈ earlier.roots, ∀ other ∈ later.roots, root.kind ≠ other.kind

instance : DecidablePred SingleRoots := fun definitions =>
  inferInstanceAs (Decidable (List.Pairwise _ definitions))

/-- Whether two type systems have the same types, each with the same fields in some order. -/
structure TypeSystem.Matches (left right : TypeSystem) : Prop where
  queryType : left.queryType = right.queryType
  mutationType : left.mutationType = right.mutationType
  subscriptionType : left.subscriptionType = right.subscriptionType
  otherTypes : left.otherTypes = right.otherTypes
  names : (left.objectTypes.map ObjectType.name).Perm (right.objectTypes.map ObjectType.name)
  fields : ∀ object ∈ left.objectTypes, ∀ other ∈ right.objectTypes, object.name = other.name →
    object.fields.Perm other.fields

def Agree : Except TypeFault TypeSystem → Except TypeFault TypeSystem → Prop
  | .ok left, .ok right => left.Matches right
  | .error _, .error _ => True
  | .ok _, .error _ | .error _, .ok _ => False

variable {definitions reordered : List Definition}

/-! Definitions in another order. -/

section

variable (perm : definitions.Perm reordered)

include perm

theorem typeDefinitions_perm : (typeDefinitions definitions).Perm (typeDefinitions reordered) :=
  perm.filterMap _

theorem definedNames_perm : (definedNames definitions).Perm (definedNames reordered) :=
  ((typeDefinitions_perm perm).filter _).map _

theorem objectDefinitions_perm :
    (objectDefinitions definitions).Perm (objectDefinitions reordered) :=
  ((typeDefinitions_perm perm).filter _).map _

theorem objectExtensions_perm :
    (objectExtensions definitions).Perm (objectExtensions reordered) :=
  ((typeDefinitions_perm perm).filter _).map _

theorem otherNames_perm : (otherNames definitions).Perm (otherNames reordered) :=
  ((typeDefinitions_perm perm).filter _).map _

theorem objectNames_perm : (objectNames definitions).Perm (objectNames reordered) :=
  (objectDefinitions_perm perm).map _

theorem known_perm {name : String} : Known definitions name ↔ Known reordered name :=
  or_congr_right (definedNames_perm perm).mem_iff

theorem additions_perm (name : String) :
    (additions (objectExtensions definitions) name).Perm
      (additions (objectExtensions reordered) name) :=
  (objectExtensions_perm perm).flatMap_right _

end

theorem ObjectType.Accepts.perm {object : ObjectType} {first second : List ObjectField}
    (accepts : object.Accepts first) (perm : first.Perm second) : object.Accepts second := by
  obtain ⟨distinct, fresh⟩ := accepts
  constructor
  · exact (perm.map ObjectField.name).nodup_iff.1 distinct
  · intro field member
    exact fresh field (perm.mem_iff.2 member)

theorem SingleRoots.perm (single : SingleRoots definitions) (perm : definitions.Perm reordered) :
    SingleRoots reordered := by
  refine (perm.pairwise_iff ?_).1 single
  intro earlier later apart root member other belongs same
  exact apart other belongs root member same.symm

theorem SingleRoots.nodup_kinds (single : SingleRoots definitions)
    (sound : ∀ definition ∈ definitions, definition.fault = none) :
    ((definitions.flatMap Definition.roots).map RootDeclaration.kind).Nodup := by
  rw [List.map_flatMap, List.nodup_flatMap]
  constructor
  · intro definition member
    cases definition with
    | schema schema => exact nodup_kinds_of_fault (sound _ member)
    | type type => exact List.nodup_nil
    | directive directive => exact List.nodup_nil
  · refine single.imp ?_
    intro earlier later apart kind here there
    obtain ⟨root, member, rfl⟩ := List.mem_map.1 here
    obtain ⟨other, belongs, same⟩ := List.mem_map.1 there
    exact apart root member other belongs same.symm

theorem lastRoot_perm (single : SingleRoots definitions)
    (sound : ∀ definition ∈ definitions, definition.fault = none)
    (perm : definitions.Perm reordered) (kind : OperationKind) :
    lastRoot reordered kind = lastRoot definitions kind := by
  have distinct := single.nodup_kinds sound
  have roots := (perm.flatMap_right Definition.roots).filter fun root => root.kind = kind
  rw [lastRoot, lastRoot]
  -- Of a kind that is declared once there is one declaration at most, and so one order.
  have short : ((definitions.flatMap Definition.roots).filter fun root =>
      root.kind = kind).Pairwise fun _ _ => False := by
    rw [List.pairwise_filter]
    refine (List.pairwise_map.1 distinct).imp ?_
    intro root other apart own same
    exact apart ((of_decide_eq_true own).trans (of_decide_eq_true same).symm)
  revert short roots
  generalize (definitions.flatMap Definition.roots).filter (fun root => root.kind = kind) = declared
  generalize (reordered.flatMap Definition.roots).filter (fun root => root.kind = kind) = others
  intro roots short
  cases declared with
  | nil => rw [roots.nil_eq]
  | cons root rest =>
      cases rest with
      | nil => rw [List.singleton_perm.1 roots]
      | cons other rest => exact ((List.pairwise_cons.1 short).1 other List.mem_cons_self).elim

theorem Coherent.perm (coherent : Coherent definitions) (perm : definitions.Perm reordered)
    (roots : ∀ kind, lastRoot reordered kind = lastRoot definitions kind) : Coherent reordered := by
  have names : ∀ {name}, name ∈ objectNames definitions → name ∈ objectNames reordered :=
    (objectNames_perm perm).mem_iff.1
  constructor
  case distinct => exact (definedNames_perm perm).nodup_iff.1 coherent.distinct
  case extended =>
    intro extension member
    exact names (coherent.extended extension ((objectExtensions_perm perm).mem_iff.2 member))
  case known =>
    intro type member field declared
    obtain ⟨own, arguments⟩ :=
      coherent.known type ((typeDefinitions_perm perm).mem_iff.2 member) field declared
    exact ⟨(known_perm perm).1 own,
      fun argument given => (known_perm perm).1 (arguments argument given)⟩
  case query =>
    rw [roots]
    exact names coherent.query
  case mutation =>
    rw [roots]
    exact fun name declared => names (coherent.mutation name declared)
  case subscription =>
    rw [roots]
    exact fun name declared => names (coherent.subscription name declared)

theorem Extensible.perm (extensible : Extensible definitions) (perm : definitions.Perm reordered) :
    Extensible reordered := by
  intro object member
  have accepts := extensible object ((objectDefinitions_perm perm).mem_iff.2 member)
  exact accepts.perm (additions_perm perm object.name)

theorem TypeSystem.Describes.matches {left right : TypeSystem}
    (describes : left.Describes definitions) (other : right.Describes reordered)
    (coherent : Coherent definitions) (perm : definitions.Perm reordered)
    (roots : ∀ kind, lastRoot reordered kind = lastRoot definitions kind) : left.Matches right := by
  have root : ∀ kind usual,
      describedRoot definitions kind usual = describedRoot reordered kind usual := by
    intro kind usual
    simp only [describedRoot, roots, (objectNames_perm perm).mem_iff]
  constructor
  case queryType => rw [describes.queryType, other.queryType, roots]
  case mutationType => rw [describes.mutationType, other.mutationType, root]
  case subscriptionType => rw [describes.subscriptionType, other.subscriptionType, root]
  case otherTypes =>
    refine NameMap.eq_of_mem_iff fun name => ?_
    rw [describes.otherTypes, other.otherTypes, (otherNames_perm perm).mem_iff]
  case names =>
    rw [describes.objectTypes, other.objectTypes, describedObjects, describedObjects, names_adding,
      names_adding]
    exact objectNames_perm perm
  case fields =>
    rw [describes.objectTypes, other.objectTypes, describedObjects, describedObjects]
    intro first member second belongs same
    obtain ⟨object, defined, rfl⟩ := List.mem_map.1 member
    obtain ⟨twin, definedToo, rfl⟩ := List.mem_map.1 belongs
    -- There is one definition of the name, wherever it stands.
    have single : object = twin :=
      List.inj_on_of_nodup_map (nodup_objectNames coherent.distinct) defined
        ((objectDefinitions_perm perm).mem_iff.2 definedToo) same
    subst single
    exact (additions_perm perm object.name).append_left _

theorem TypeSystem.ofDefinitions_perm {system : TypeSystem} (single : SingleRoots definitions)
    (sound : ∀ definition ∈ definitions, definition.fault = none)
    (perm : definitions.Perm reordered) (made : ofDefinitions definitions = .ok system) :
    ∃ other, ofDefinitions reordered = .ok other ∧ system.Matches other := by
  have roots := lastRoot_perm single sound perm
  have soundToo : ∀ definition ∈ reordered, definition.fault = none :=
    fun definition member => sound definition (perm.mem_iff.2 member)
  obtain ⟨coherent, extensible, describes⟩ := (ofDefinitions_eq_ok_iff sound).1 made
  obtain ⟨other, describesToo⟩ := exists_describes reordered
  refine ⟨other, (ofDefinitions_eq_ok_iff soundToo).2 ⟨?_, ?_, describesToo⟩, ?_⟩
  · exact coherent.perm perm roots
  · exact extensible.perm perm
  · exact describes.matches describesToo coherent perm roots

theorem TypeSystem.ofDefinitions_agree (single : SingleRoots definitions)
    (sound : ∀ definition ∈ definitions, definition.fault = none)
    (perm : definitions.Perm reordered) :
    Agree (ofDefinitions definitions) (ofDefinitions reordered) := by
  cases made : ofDefinitions definitions with
  | ok system =>
      obtain ⟨other, madeToo, same⟩ := ofDefinitions_perm single sound perm made
      rw [madeToo]
      exact same
  | error fault =>
      cases madeToo : ofDefinitions reordered with
      | error other => trivial
      | ok other =>
          have soundToo : ∀ definition ∈ reordered, definition.fault = none :=
            fun definition member => sound definition (perm.mem_iff.2 member)
          obtain ⟨system, accepted, -⟩ :=
            ofDefinitions_perm (single.perm perm) soundToo perm.symm madeToo
          cases made.symm.trans accepted

/-! Extensions moved into the definitions. -/

def TypeDefinition.extendsObject (type : TypeDefinition) : Bool :=
  type.body.isObject && type.extension

def extensionFields (definitions : List Definition) (name : String) : List FieldDefinition :=
  ((typeDefinitions definitions).filter fun type => type.extendsObject && type.name = name).flatMap
    fun type => type.body.fields

def TypeBody.adding (fields : List FieldDefinition) : TypeBody → TypeBody
  | .object interfaces own => .object interfaces (own ++ fields)
  | body => body

def TypeDefinition.adding (fieldsFor : String → List FieldDefinition) (type : TypeDefinition) :
    TypeDefinition :=
  { type with body := type.body.adding (fieldsFor type.name) }

/-- A definition with the fields added to it, or nothing for the extension of an object type. -/
def Definition.merge? (fieldsFor : String → List FieldDefinition) : Definition → Option Definition
  | .schema declared => some (.schema declared)
  | .type defined =>
    if defined.extendsObject then none else some (.type (defined.adding fieldsFor))
  | .directive declared => some (.directive declared)

/-- The document without its extensions of object types, whose fields are moved to the ends of the
definitions that they extend. -/
def merged (definitions : List Definition) : List Definition :=
  definitions.filterMap (Definition.merge? (extensionFields definitions))

section

variable {fieldsFor : String → List FieldDefinition} {type : TypeDefinition}

@[simp] theorem TypeBody.isObject_adding (body : TypeBody) (fields : List FieldDefinition) :
    (body.adding fields).isObject = body.isObject := by
  cases body <;> rfl

theorem TypeBody.mem_fields_adding {body : TypeBody} {fields : List FieldDefinition}
    {field : FieldDefinition} (member : field ∈ (body.adding fields).fields) :
    field ∈ body.fields ∨ field ∈ fields := by
  cases body with
  | object interfaces own => exact List.mem_append.1 member
  | scalar | interface | union | enumeration | input => exact .inl member

theorem TypeDefinition.objectFields_adding (object : type.body.isObject) :
    (type.adding fieldsFor).objectFields =
      type.objectFields ++ (fieldsFor type.name).map FieldDefinition.objectField := by
  obtain ⟨extension, name, directives, body⟩ := type
  cases body with
  | object interfaces own => exact List.map_append
  | scalar | interface | union | enumeration | input => cases object

theorem typeDefinitions_merge (definitions : List Definition) :
    typeDefinitions (definitions.filterMap (Definition.merge? fieldsFor)) =
      ((typeDefinitions definitions).filter fun type => !type.extendsObject).map
        (TypeDefinition.adding fieldsFor) := by
  induction definitions with
  | nil => rfl
  | cons definition definitions ih =>
      rw [typeDefinitions] at ih ⊢
      cases definition with
      | schema declared => exact ih
      | directive declared => exact ih
      | type defined =>
          cases extending : defined.extendsObject <;>
            simpa [Definition.merge?, Definition.type?, typeDefinitions, extending] using ih

theorem roots_merge (definitions : List Definition) :
    (definitions.filterMap (Definition.merge? fieldsFor)).flatMap Definition.roots =
      definitions.flatMap Definition.roots := by
  induction definitions with
  | nil => rfl
  | cons definition definitions ih =>
      cases definition with
      | schema declared => exact congrArg (declared.roots ++ ·) ih
      | directive declared => exact ih
      | type defined =>
          cases extending : defined.extendsObject <;>
            simpa [Definition.merge?, Definition.roots, extending] using ih

theorem filter_merge {chosen : TypeDefinition → Bool}
    (same : ∀ type, chosen (type.adding fieldsFor) = chosen type)
    (defines : ∀ type, chosen type → type.extendsObject = false) (definitions : List Definition) :
    (typeDefinitions (definitions.filterMap (Definition.merge? fieldsFor))).filter chosen =
      ((typeDefinitions definitions).filter chosen).map (TypeDefinition.adding fieldsFor) := by
  rw [typeDefinitions_merge, List.filter_map, List.filter_filter]
  refine congrArg _ (List.filter_congr fun type _ => ?_)
  rw [Function.comp_apply, same]
  cases choice : chosen type with
  | false => rfl
  | true => simp [defines type choice]

end

section

variable (definitions)

theorem lastRoot_merged (kind : OperationKind) : lastRoot (merged definitions) kind =
    lastRoot definitions kind := by
  rw [lastRoot, merged, roots_merge, lastRoot]

theorem definedNames_merged : definedNames (merged definitions) = definedNames definitions := by
  rw [definedNames, merged, filter_merge, List.map_map]
  · rfl
  · exact fun type => rfl
  · intro type defines
    simp_all [TypeDefinition.extendsObject]

theorem otherNames_merged : otherNames (merged definitions) = otherNames definitions := by
  rw [otherNames, merged, filter_merge, List.map_map]
  · rfl
  · intro type
    simp [TypeDefinition.adding]
  · intro type defines
    simp_all [TypeDefinition.extendsObject]

theorem objectExtensions_merged : objectExtensions (merged definitions) = [] := by
  rw [objectExtensions, merged, typeDefinitions_merge, List.filter_map, List.filter_filter]
  simp [TypeDefinition.adding, TypeDefinition.extendsObject]

theorem additions_extensionFields (name : String) :
    additions (objectExtensions definitions) name =
      (extensionFields definitions name).map FieldDefinition.objectField := by
  rw [additions, objectExtensions, extensionFields]
  induction typeDefinitions definitions with
  | nil => rfl
  | cons type types ih =>
      by_cases extending : type.extendsObject = true
      · by_cases named : type.name = name <;>
          simp_all [TypeDefinition.extendsObject, Extension.fieldsFor, TypeDefinition.objectFields]
      · simp_all [TypeDefinition.extendsObject]

theorem objectDefinitions_merged :
    objectDefinitions (merged definitions) = describedObjects definitions := by
  rw [objectDefinitions, merged, filter_merge, List.map_map, describedObjects, objectDefinitions,
    List.map_map]
  · refine List.map_congr_left fun type member => ?_
    have object : type.body.isObject := by
      simp only [List.mem_filter, Bool.and_eq_true] at member
      exact member.2.1
    simp only [Function.comp_apply, TypeDefinition.objectFields_adding object, ObjectType.adding,
      additions_extensionFields]
    rfl
  · intro type
    simp [TypeDefinition.adding]
  · intro type defines
    simp_all [TypeDefinition.extendsObject]

theorem objectNames_merged : objectNames (merged definitions) = objectNames definitions := by
  rw [objectNames, objectDefinitions_merged, describedObjects, names_adding, objectNames]

theorem describedObjects_merged :
    describedObjects (merged definitions) = describedObjects definitions := by
  rw [describedObjects, objectExtensions_merged, objectDefinitions_merged]
  exact (List.map_congr_left fun object _ => ObjectType.adding_nil).trans (List.map_id _)

end

theorem mem_extensionFields {name : String} {field : FieldDefinition}
    (member : field ∈ extensionFields definitions name) :
    ∃ type ∈ typeDefinitions definitions, field ∈ type.body.fields := by
  obtain ⟨type, chosen, declared⟩ := List.mem_flatMap.1 member
  exact ⟨type, List.mem_of_mem_filter chosen, declared⟩

theorem mem_fields_merged {type : TypeDefinition} {field : FieldDefinition}
    (member : type ∈ typeDefinitions (merged definitions)) (declared : field ∈ type.body.fields) :
    ∃ type ∈ typeDefinitions definitions, field ∈ type.body.fields := by
  rw [merged, typeDefinitions_merge] at member
  obtain ⟨own, kept, rfl⟩ := List.mem_map.1 member
  rcases TypeBody.mem_fields_adding declared with here | moved
  · exact ⟨own, List.mem_of_mem_filter kept, here⟩
  · exact mem_extensionFields moved

theorem Coherent.merged (coherent : Coherent definitions) : Coherent (merged definitions) := by
  constructor
  case distinct =>
    rw [definedNames_merged]
    exact coherent.distinct
  case extended =>
    rw [objectExtensions_merged]
    exact fun _ => nofun
  case known =>
    intro type member field declared
    obtain ⟨own, belongs, here⟩ := mem_fields_merged member declared
    simp only [Known, definedNames_merged]
    exact coherent.known own belongs field here
  case query =>
    rw [lastRoot_merged, objectNames_merged]
    exact coherent.query
  case mutation =>
    rw [lastRoot_merged, objectNames_merged]
    exact coherent.mutation
  case subscription =>
    rw [lastRoot_merged, objectNames_merged]
    exact coherent.subscription

theorem extensible_merged (definitions : List Definition) : Extensible (merged definitions) := by
  intro object member
  rw [objectExtensions_merged]
  exact ObjectType.accepts_nil

theorem TypeSystem.Describes.merged {system : TypeSystem} (describes : system.Describes definitions) :
    system.Describes (merged definitions) := by
  constructor
  case objectTypes => rw [describedObjects_merged, describes.objectTypes]
  case otherTypes => simpa only [otherNames_merged] using describes.otherTypes
  case queryType => rw [lastRoot_merged, describes.queryType]
  case mutationType =>
    simp only [describes.mutationType, describedRoot, lastRoot_merged, objectNames_merged]
  case subscriptionType =>
    simp only [describes.subscriptionType, describedRoot, lastRoot_merged, objectNames_merged]

theorem TypeBody.overflows_of_mem {body : TypeBody} (sound : body.overflows = false)
    {field : FieldDefinition} (declared : field ∈ body.fields) : field.overflows = false := by
  cases body with
  | object interfaces fields | interface interfaces fields =>
      exact Bool.eq_false_iff.2 (List.any_eq_false.1 sound field declared)
  | scalar | union | enumeration | input => cases declared

theorem TypeBody.overflows_adding {body : TypeBody} {fields : List FieldDefinition}
    (sound : body.overflows = false) (more : ∀ field ∈ fields, field.overflows = false) :
    (body.adding fields).overflows = false := by
  cases body with
  | object interfaces own => 
      have rest : fields.any FieldDefinition.overflows = false := by simpa using more
      simp only [adding, overflows, List.any_append, Bool.or_eq_false_iff] at sound ⊢
      exact ⟨sound, rest⟩
  | scalar | interface | union | enumeration | input => exact sound

theorem fault_type_eq_none_iff {type : TypeDefinition} :
    (Definition.type type).fault = none ↔
      type.directives.any Directive.overflows = false ∧ type.body.overflows = false := by
  rw [Definition.fault]
  cases type.directives.any Directive.overflows <;> cases type.body.overflows <;> simp

theorem sound_merged (sound : ∀ definition ∈ definitions, definition.fault = none) :
    ∀ definition ∈ merged definitions, definition.fault = none := by
  have fields : ∀ name, ∀ field ∈ extensionFields definitions name, field.overflows = false := by
    intro name field member
    obtain ⟨type, belongs, declared⟩ := mem_extensionFields member
    obtain ⟨definition, listed, own⟩ := List.mem_filterMap.1 belongs
    cases definition with
    | schema | directive => cases own
    | type defined =>
        cases own
        exact TypeBody.overflows_of_mem (fault_type_eq_none_iff.1 (sound _ listed)).2 declared
  intro definition member
  obtain ⟨own, listed, kept⟩ := List.mem_filterMap.1 member
  cases own with
  | schema declared =>
      cases kept
      exact sound _ listed
  | directive declared =>
      cases kept
      exact sound _ listed
  | type defined =>
      rw [Definition.merge?] at kept
      split at kept
      · cases kept
      · cases kept
        obtain ⟨directives, body⟩ := fault_type_eq_none_iff.1 (sound _ listed)
        exact fault_type_eq_none_iff.2
          ⟨directives, TypeBody.overflows_adding body (fields defined.name)⟩

theorem TypeSystem.ofDefinitions_merged {system : TypeSystem}
    (sound : ∀ definition ∈ definitions, definition.fault = none)
    (made : ofDefinitions definitions = .ok system) :
    ofDefinitions (merged definitions) = .ok system := by
  obtain ⟨coherent, -, describes⟩ := (ofDefinitions_eq_ok_iff sound).1 made
  exact (ofDefinitions_eq_ok_iff (sound_merged sound)).2
    ⟨coherent.merged, extensible_merged definitions, describes.merged⟩

/-! Sources. -/

namespace TypeSystem

variable {source : String}

theorem parse_of_read (read : readSchemaDocument source = .ok definitions) :
    parse source = ofDefinitions definitions := by
  rw [parse_eq, read]

/-- A document whose definitions are put in another order is accepted or rejected as it was, and has
the same types and fields, as long as no two of them declare the same root. An accepted document
whose extensions are merged into the object types has the very same type system. -/
theorem parse_orderless (read : readSchemaDocument source = .ok definitions) :
    (SingleRoots definitions → ∀ reordered, definitions.Perm reordered →
      Agree (parse source) (ofDefinitions reordered) ∧
        ∀ other, readSchemaDocument other = .ok reordered → Agree (parse source) (parse other)) ∧
      ∀ system, parse source = .ok system →
        ofDefinitions (merged definitions) = .ok system ∧
          ∀ other, readSchemaDocument other = .ok (merged definitions) → parse other = .ok system := by
  have sound := sound_of_read read
  constructor
  · intro single reordered perm
    have agree : Agree (parse source) (ofDefinitions reordered) := by
      rw [parse_of_read read]
      exact ofDefinitions_agree single sound perm
    refine ⟨agree, fun other readOther => ?_⟩
    rw [parse_of_read readOther]
    exact agree
  · intro system parsed
    rw [parse_of_read read] at parsed
    have same := ofDefinitions_merged sound parsed
    refine ⟨same, fun other readOther => ?_⟩
    rw [parse_of_read readOther]
    exact same

/-- Two extensions around the type they extend, one of which uses a type that is defined later. -/
def surroundedSource : String :=
  "extend type Root \x7b second(unit: Unit): Int \x7d type Root \x7b first: Int \x7d " ++
  "schema \x7b query: Root \x7d extend type Root \x7b third: [Root!] \x7d scalar Unit " ++
  "extend schema \x7b mutation: Root \x7d"

def fieldNamesOf (system : TypeSystem) : List (List String) :=
  system.objectTypes.map ObjectType.fieldNames

theorem surrounded_source_reversed :
    ∃ definitions system other, readSchemaDocument surroundedSource = .ok definitions ∧
      SingleRoots definitions ∧ parse surroundedSource = .ok system ∧
      ofDefinitions definitions.reverse = .ok other ∧ system.Matches other ∧
      fieldNamesOf system = [["first", "second", "third"]] ∧
      fieldNamesOf other = [["first", "third", "second"]] ∧
      ofDefinitions (merged definitions) = .ok system ∧ objectExtensions (merged definitions) = [] := by
  have accepted : ((readSchemaDocument surroundedSource).toOption.any fun definitions =>
      SingleRoots definitions ∧
        ((ofDefinitions definitions).toOption.any fun system =>
          fieldNamesOf system = [["first", "second", "third"]]) ∧
        ((ofDefinitions definitions.reverse).toOption.any fun system =>
          fieldNamesOf system = [["first", "third", "second"]])) = true := by
    decide +kernel
  obtain ⟨definitions, read, holds⟩ := exists_ok_of_any accepted
  obtain ⟨single, made, reversed⟩ := of_decide_eq_true holds
  obtain ⟨system, made, fields⟩ := exists_ok_of_any made
  obtain ⟨other, reversed, otherFields⟩ := exists_ok_of_any reversed
  have parsed : parse surroundedSource = .ok system := (parse_of_read read).trans made
  obtain ⟨orderless, mergeable⟩ := parse_orderless read
  obtain ⟨agree, -⟩ := orderless single definitions.reverse definitions.reverse_perm.symm
  rw [parsed, reversed] at agree
  exact ⟨definitions, system, other, read, single, parsed, reversed, agree, of_decide_eq_true fields,
    of_decide_eq_true otherFields, (mergeable system parsed).1, objectExtensions_merged definitions⟩

end TypeSystem

end GatewayControl.GraphQL
