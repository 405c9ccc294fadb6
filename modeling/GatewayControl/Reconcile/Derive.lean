import GatewayControl.Endpoint
import GatewayControl.Report
import GatewayControl.Skeleton
import GatewayControl.Store.Call

/-!
From a snapshot to endpoints and reports. Each schema is handled on its own. A schema that names a
resolver map of the snapshot is built with it; one that names none is bootstrapped: it is pointed at
a generated map in storage, and then that map is created. An endpoint for it is built from the next
snapshot.

A failure to parse belongs to the schema; a failure to build resolvers belongs to the map, which
other schemas may use too. So there is a report for every schema, and one for every map that failed
for some schema.
-/

namespace GatewayControl

inductive DeriveCall
  | store (call : StoreCall)
  /-- Tells the operator of the proxy that a map is in use. -/
  | register (map : ResolverMap)

@[reducible] def DeriveCall.Reply : DeriveCall → Type
  | store call => call.Reply
  | register _ => Except OperatorFault Unit

abbrev DeriveProgram := Program DeriveCall.Reply

/-- Creates a generated map. It may exist already if the schema referred to it before. -/
def createSkeleton (map : ResolverMap) (referenced : Bool) :
    StoreProgram (Except Failure Unit) :=
  .call (.createMap map) fun
    | .ok _ => .done (.ok ())
    | .error fault =>
      match fault, referenced with
      | .alreadyExists _ _, true => .done (.ok ())
      | fault, _ => .done (.error (.storage ("writing resolver map " ++ map.name ++ " to storage") fault))

/-- Points a schema at a generated map and creates the map. The reference is written first, so that
what is left to do after a failure is the creation alone. -/
def bootstrap (schema : Schema) : StoreProgram (Except Failure Unit) :=
  match GraphQL.TypeSystem.parse schema.source with
  | .error fault => .done (.error (.schemaParse fault.message))
  | .ok system =>
    let map := skeleton (generatedMapName schema.name) system
    .call (.getSchema schema.name) fun
      | .error fault =>
        .done (.error (.storage ("retrieving schema " ++ schema.name ++ " from storage") fault))
      | .ok stored =>
        if stored.resolverMap = "" then
          .call (.updateSchema { stored with resolverMap := map.name }) fun
            | .error fault =>
              .done (.error (.storage ("updating schema " ++ schema.name ++ " in storage") fault))
            | .ok _ => createSkeleton map false
        else if stored.resolverMap = map.name then createSkeleton map true
        else .done (.ok ())

structure SchemaOutcome where
  endpoint : Option Endpoint := none
  schemaFailure : Option Failure := none
  /-- A failure that belongs to the resolver map of the given name. -/
  mapFailure : Option (String × Failure) := none
  registerFailure : Option OperatorFault := none

/-- What comes of a schema that asks for a generated map: never an endpoint. -/
def SchemaOutcome.ofBootstrap : Except Failure Unit → SchemaOutcome
  | .ok _ => {}
  | .error failure => { schemaFailure := some failure }

def registerFault? : Except OperatorFault Unit → Option OperatorFault
  | .ok _ => none
  | .error fault => some fault

def buildEndpoint (proxy : Proxy) (schema : Schema) (map : ResolverMap) :
    DeriveProgram SchemaOutcome :=
  match GraphQL.TypeSystem.parse schema.source with
  | .error fault => .done { schemaFailure := some (.schemaParse fault.message) }
  | .ok system =>
    match proxy.build system map with
    | .error fault => .done { mapFailure := some (map.name, .build fault) }
    | .ok resolvers =>
      .call (.register map) fun reply =>
        .done {
          endpoint := some ⟨schema.name, system, resolvers⟩
          registerFailure := registerFault? reply }

def handleSchema (proxy : Proxy) (snapshot : Snapshot) (schema : Schema) :
    DeriveProgram SchemaOutcome :=
  match nameFault schema.name with
  | some fault => .done { schemaFailure := some (.invalidName fault.message) }
  | none =>
    if schema.resolverMap = "" then
      (Program.embed DeriveCall.store (bootstrap schema)).bind fun result =>
        .done (.ofBootstrap result)
    else
      match snapshot.map? schema.resolverMap with
      | some map => buildEndpoint proxy schema map
      | none => .done { schemaFailure := some (.mapNotFound schema.name schema.resolverMap) }

structure Derivation where
  /-- In the order of their schemas. -/
  endpoints : List Endpoint := []
  /-- Those of the schemas in their order, then those of resolver maps. -/
  reports : List Report := []
  /-- Failures that belong to no stored object. -/
  failures : List Failure := []

def Derivation.ofOutcomes (outcomes : List (String × SchemaOutcome)) : Derivation where
  endpoints := outcomes.filterMap fun (_, outcome) => outcome.endpoint
  reports :=
    outcomes.map (fun (name, outcome) => ⟨⟨.schema, name⟩, outcome.schemaFailure⟩) ++
      (({} : MapFailures).recordAll (outcomes.filterMap fun (_, outcome) => outcome.mapFailure)).reports
  failures := outcomes.filterMap fun (_, outcome) => outcome.registerFailure.map .operator

def handleSchemas (proxy : Proxy) (snapshot : Snapshot) :
    List Schema → DeriveProgram (List (String × SchemaOutcome))
  | [] => .done []
  | schema :: schemas =>
    (handleSchema proxy snapshot schema).bind fun outcome =>
      (handleSchemas proxy snapshot schemas).bind fun outcomes =>
        .done ((schema.name, outcome) :: outcomes)

def deriveEndpoints (proxy : Proxy) (snapshot : Snapshot) : DeriveProgram Derivation :=
  (handleSchemas proxy snapshot snapshot.schemas).bind fun outcomes =>
    .done (.ofOutcomes outcomes)

end GatewayControl
