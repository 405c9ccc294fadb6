import GatewayControl.Proofs.Independence
import GatewayControl.Proofs.ListingOrders
import GatewayControl.Proofs.Outcomes

/-!
Passes over two backends with the same objects. What a pass derives depends on the backend through the
order of the snapshot and through the replies to the calls of bootstraps, and these are answered alike
as long as what they write fits into files.
-/

namespace GatewayControl

/-- Whether a schema without a reference can be given a generated map in files. -/
def Schema.Fits (schema : Schema) : Prop :=
  schema.resolverMap = "" →
    (generatedMapName schema.name ++ ".toml.tmp").utf8ByteSize ≤ Disk.maxNameLength ∧
      schema.version < Toml.maxInteger

instance (schema : Schema) : Decidable schema.Fits :=
  inferInstanceAs (Decidable (schema.resolverMap = "" → _ ∧ _))

def MemoryStore.Fits (store : MemoryStore) : Prop :=
  ∀ name schema, store.schemas.get? name = some schema → schema.Fits

section

variable {snapshot : Snapshot} {schema : Schema} {store after : MemoryStore} {call : StoreCall}
  {reply : call.Reply}

theorem Asked.fits (asked : Asked (snapshot.only schema) [] store call)
    (answers : store.Answers call reply after) (fits : store.Fits) : after.Fits := by
  cases asked with
  | get object =>
      rw [answers.of_get.1]
      exact fits
  | refer =>
      obtain ⟨schemas, updates, rfl⟩ := answers
      rcases updates.cases with ⟨rfl, -⟩ | ⟨current, -, -, -, rfl⟩
      · exact fits
      · intro name found present
        rw [Catalog.get?_put] at present
        split at present
        · cases present
          exact fun unnamed => absurd unnamed (generatedMapName_ne_empty _)
        · exact fits name found present
  | create =>
      obtain ⟨maps, -, rfl⟩ := answers
      exact fits
  | restate reported => exact (List.not_mem_nil reported).elim

theorem Asked.plain (asked : Asked (snapshot.only schema) [] store call)
    (concerns : call.Concerns schema.name) (bootstraps : schema.Bootstraps) (fits : schema.Fits)
    (stored : store.Fits) :
    call.Plain ∧ (call.object ++ ".toml.tmp").utf8ByteSize ≤ Disk.maxNameLength := by
  obtain ⟨generatedShort, -⟩ := fits bootstraps.2.1
  have short : (schema.name ++ ".toml.tmp").utf8ByteSize ≤ Disk.maxNameLength := by
    simp only [generatedMapName, String.utf8ByteSize_append] at generatedShort ⊢
    omega
  cases asked with
  | get object =>
      obtain ⟨kind, name⟩ := object
      cases kind with
      | schema =>
          obtain rfl : name = schema.name := concerns
          exact ⟨bootstraps.1, short⟩
      | resolverMap => exact concerns.elim
  | @refer asking found member valid unnamed present unreferred =>
      obtain rfl := List.mem_singleton.1 member
      have named : found.name = asking.name := Catalog.name_of_get? present
      refine ⟨⟨?_, (stored _ _ present unreferred).2⟩, ?_⟩
      · exact named ▸ valid
      · exact named ▸ short
  | @create asking found system member valid unnamed parsed present refers =>
      obtain rfl := List.mem_singleton.1 member
      exact ⟨validName_generatedMapName valid, generatedShort⟩
  | restate reported => exact (List.not_mem_nil reported).elim

end

namespace Gateway

def derive (snapshot : Snapshot) (gateway : Gateway) : Derivation × Gateway :=
  (deriveEndpoints gateway.proxy snapshot).run (deriveHandler handleStore handleOperator) gateway

def derived (snapshot : Snapshot) (gateway : Gateway) : Derivation := (gateway.derive snapshot).1

theorem published (snapshot : Snapshot) (gateway : Gateway) :
    (gateway.pass snapshot).2.table = .ofEndpoints (gateway.derived snapshot).endpoints ∧
      (gateway.pass snapshot).2.reports = (gateway.derived snapshot).reports := by
  let derivation := gateway.derived snapshot
  let published := fun after : Gateway =>
    after.table = .ofEndpoints derivation.endpoints ∧ after.reports = derivation.reports
  have noted : published (noteReports derivation.reports
      (serve derivation.endpoints (gateway.derive snapshot).2)) := ⟨rfl, rfl⟩
  have stored : ∀ call before, published before → published (handleStore call before).2 := by
    intro call before same
    rw [handleStore]
    cases before.backend <;> exact same
  have written := Program.holds_at_end (Reporter.writeReports derivation.reports) published noted
    stored
  rw [pass, run_reconcile]
  exact written

theorem derived_site {gateway : Gateway} {proxy : Proxy} (memory : gateway.InMemory proxy)
    (snapshot : Snapshot) :
    gateway.derived snapshot =
      (Site.derived RouteOperator.handle proxy snapshot gateway.site).1 := by
  rw [derived, derive, memory.proxy]
  exact (Program.run_view (InMemory proxy)
    (fun call gateway memory => handlePass_site (.derive call) memory)
    (deriveEndpoints proxy snapshot) memory).2.1

theorem endpoints_derived (snapshot : Snapshot) (gateway : Gateway) :
    (gateway.derived snapshot).endpoints = endpointsOf gateway.proxy snapshot :=
  endpoints_deriveEndpoints gateway

end Gateway

/-! Derivations. -/

structure Mirrored (store : FileStore) (site : Site (RouteOperator × Disk)) (gateway : Gateway) :
    Prop where
  faultless : site.faults = []
  fits : site.store.Fits
  backend : gateway.backend = .files store
  mirrors : store.Mirrors gateway.disk site.store
  operator : gateway.operator = site.operator.1

namespace Mirrored

variable {store : FileStore} {site : Site (RouteOperator × Disk)} {gateway : Gateway}

theorem handleStore {call : StoreCall} (mirrored : Mirrored store site gateway) (plain : call.Plain)
    (short : (call.object ++ ".toml.tmp").utf8ByteSize ≤ Disk.maxNameLength)
    (fits : (Site.handleStore call site).2.store.Fits) :
    (Gateway.handleStore call gateway).1 = (Site.handleStore call site).1 ∧
      Mirrored store (Site.handleStore call site).2 (Gateway.handleStore call gateway).2 := by
  have runs := mirrored.mirrors.runs plain short
  obtain ⟨reply, kept⟩ := mirrored.mirrors.step plain runs
  obtain ⟨faultless, -, backend, -, operator⟩ := mirrored
  have inSite := Site.handleStore_eq_of_faultless call faultless
  have inFiles : Gateway.handleStore call gateway = gateway.onDisk (store.answer call) := by
    rw [Gateway.handleStore, backend]
  rw [inSite] at fits
  rw [inSite, inFiles]
  exact ⟨reply, faultless, fits, backend, kept, operator⟩

theorem register (mirrored : Mirrored store site gateway) (map : ResolverMap) :
    (Gateway.handleOperator (.register map) gateway).1 =
        (Site.handleOperator RouteOperator.handle (.register map) site).1 ∧
      Mirrored store (Site.handleOperator RouteOperator.handle (.register map) site).2
        (Gateway.handleOperator (.register map) gateway).2 := by
  obtain ⟨faultless, fits, backend, mirrors, operator⟩ := mirrored
  simp only [Gateway.handleOperator, Site.handleOperator, RouteOperator.handle, operator]
  exact ⟨trivial, faultless, fits, backend, mirrors, rfl⟩

theorem derives {snapshot : Snapshot} (mirrored : Mirrored store site gateway)
    (fits : ∀ schema ∈ snapshot.schemas, schema.Fits) :
    gateway.derived snapshot = (Site.derived RouteOperator.handle gateway.proxy snapshot site).1 := by
  refine (Program.run_related (Mirrored store) mirrored ?_).1
  intro step member gateway mirrored
  rw [Site.steps_deriveEndpoints] at member
  have handled := Program.handled_of_mem_steps member
  obtain ⟨before, call, reply, after⟩ := step
  cases call with
  | register map =>
      have registered := mirrored.register map
      rw [show Site.handleOperator RouteOperator.handle (.register map) before = (reply, after)
        from handled] at registered
      exact registered
  | store call =>
      -- Only bootstraps call the store, and what one asks for depends on what the site holds by then.
      obtain ⟨schema, belongs, bootstraps, start, inner, made, same⟩ :=
        Site.bootstrap_of_handleSchemas member rfl
      obtain ⟨before, call, reply, after⟩ := inner
      cases same
      have stored : Site.handleStore call before = (reply, after) := handled
      have asked : Asked (snapshot.only schema) [] before.store call :=
        Site.bootstrap_asks List.mem_cons_self bootstraps.1 bootstraps.2.1 start _ made call rfl
      have concerns : call.Concerns schema.name := Site.bootstrap_concerns schema start _ made
      have fitsAfter := asked.fits (Site.answers_of_handled stored) mirrored.fits
      obtain ⟨plain, short⟩ := asked.plain concerns bootstraps (fits schema belongs) mirrored.fits
      have answered := mirrored.handleStore plain short (by rw [stored]; exact fitsAfter)
      rw [stored] at answered
      exact answered

end Mirrored

structure Snapshot.Sorted (compared : String → String) (snapshot : Snapshot) : Prop where
  schemas : (snapshot.schemas.map fun schema => compared schema.name).Pairwise fun left right =>
    left < right
  maps : (snapshot.maps.map fun map => compared map.name).Pairwise fun left right => left < right

structure Snapshot.SameObjects (left right : Snapshot) : Prop where
  schemas : left.schemas.Perm right.schemas
  maps : left.maps.Perm right.maps

structure Snapshot.FilesFollow (snapshot : Snapshot) : Prop where
  schemas : GatewayControl.FilesFollow (snapshot.schemas.map Schema.name)
  maps : GatewayControl.FilesFollow (snapshot.maps.map ResolverMap.name)

theorem MemoryStore.sorted_snapshot (memory : MemoryStore) : memory.snapshot.Sorted id where
  schemas := memory.schemas.ascending_names
  maps := memory.maps.ascending_names

theorem FileStore.Mirrors.snapshot {store : FileStore} {gateway : Gateway} {memory : MemoryStore}
    (mirrors : store.Mirrors gateway.disk memory) :
    ∃ listed : Snapshot,
      ({ gateway with backend := .files store } : Gateway).snapshot = .ok listed ∧ listed.SameObjects memory.snapshot ∧
      listed.Sorted documentFile ∧ (listed = memory.snapshot ↔ memory.snapshot.FilesFollow) := by
  obtain ⟨schemas, schemasListed, schemasPermuted, schemasSorted, schemasSame⟩ :=
    mirrors.schemas.listed_order mirrors.distinct
  obtain ⟨maps, mapsListed, mapsPermuted, mapsSorted, mapsSame⟩ :=
    mirrors.maps.listed_order mirrors.distinct
  refine ⟨⟨schemas, maps⟩, Gateway.snapshot_of_files rfl schemasListed mapsListed,
    ⟨schemasPermuted, mapsPermuted⟩, ⟨schemasSorted, mapsSorted⟩, ?_⟩
  constructor
  · intro same
    have sameSchemas : schemas = memory.schemas.values := congrArg Snapshot.schemas same
    have sameMaps : maps = memory.maps.values := congrArg Snapshot.maps same
    exact ⟨schemasSame.1 sameSchemas, mapsSame.1 sameMaps⟩
  · rintro ⟨schemasFollow, mapsFollow⟩
    rw [schemasSame.2 schemasFollow, mapsSame.2 mapsFollow]
    rfl

/-- Of two backends with the same objects the one in files lists them in the order of their files, the
one in memory in the order of their names. The snapshots are the same exactly if names that go on from
others have their files after those of the others. Passes then have the same endpoints in the same
order, and if what they write fits into files the same reports, too. -/
theorem backends_alike (gateway : Gateway) (store : FileStore) (memory : MemoryStore)
    (mirrors : store.Mirrors gateway.disk memory) :
    let files := { gateway with backend := .files store }
    let inMemory := { gateway with backend := .memory memory }
    ∃ listed, files.snapshot = .ok listed ∧ inMemory.snapshot = .ok memory.snapshot ∧
      listed.SameObjects memory.snapshot ∧ listed.Sorted documentFile ∧ memory.snapshot.Sorted id ∧
      (listed = memory.snapshot ↔ memory.snapshot.FilesFollow) ∧
      (memory.snapshot.FilesFollow →
        (files.derived listed).endpoints = (inMemory.derived memory.snapshot).endpoints ∧
          (files.pass listed).2.table = (inMemory.pass memory.snapshot).2.table ∧
          ((∀ schema ∈ memory.snapshot.schemas, schema.Fits) →
            files.derived listed = inMemory.derived memory.snapshot ∧
              (files.pass listed).2.reports = (inMemory.pass memory.snapshot).2.reports)) := by
  intro files inMemory
  obtain ⟨listed, read, objects, sorted, same⟩ := mirrors.snapshot
  refine ⟨listed, read, Gateway.snapshot_of_memory rfl, objects, sorted, memory.sorted_snapshot,
    same, ?_⟩
  intro follow
  obtain rfl := same.2 follow
  have endpoints : (files.derived memory.snapshot).endpoints =
      (inMemory.derived memory.snapshot).endpoints :=
    (files.endpoints_derived memory.snapshot).trans (inMemory.endpoints_derived memory.snapshot).symm
  obtain ⟨filesTable, filesReports⟩ := files.published memory.snapshot
  obtain ⟨memoryTable, memoryReports⟩ := inMemory.published memory.snapshot
  refine ⟨endpoints, ?_, ?_⟩
  · rw [filesTable, memoryTable, endpoints]
  · intro fits
    have mirrored : Mirrored store inMemory.site files := by
      refine ⟨rfl, ?_, rfl, mirrors, rfl⟩
      intro name schema present
      exact fits schema (memory.schemas.mem_values.2 (Catalog.name_of_get? present ▸ present))
    have derived : files.derived memory.snapshot = inMemory.derived memory.snapshot :=
      (mirrored.derives fits).trans (inMemory.derived_site ⟨rfl, rfl⟩ memory.snapshot).symm
    refine ⟨derived, ?_⟩
    rw [filesReports, memoryReports, derived]

theorem FileStore.Mirrors.withSchema {store : FileStore} {disk : Disk} {memory : MemoryStore}
    {schema : Schema} {content : String} (mirrors : store.Mirrors disk memory)
    (nonempty : schema.name ≠ "") (rendered : FileStore.renderDocument schema = .ok content)
    (short : (schema.name ++ ".toml.tmp").utf8ByteSize ≤ Disk.maxNameLength) :
    store.Mirrors (store.withDocument disk .schema schema.name content)
      { memory with schemas := memory.schemas.put schema } := by
  have follows := mirrors.schemas.withDocument nonempty rendered short
  exact ⟨follows.distinct mirrors.distinct, follows.own,
    follows.others ResolverMap _ (by decide) mirrors.maps⟩

def laterSchema : Schema where
  name := "orders_later"
  source := "type Query { count: Int }"
  version := 1

def laterMemory : MemoryStore where
  schemas := ((∅ : Catalog Schema).put FileStore.submitted).put laterSchema

def configGateway (disk : Disk) : Gateway where
  backend := .files FileStore.configStore
  proxy := halfwayProxy
  operator := { virtualService := "gateway", role := "router", path := ["routes.json"] }
  disk

def laterGateway (content laterContent : String) : Gateway :=
  configGateway (FileStore.configStore.withDocument
    (FileStore.configStore.withDocument FileStore.configDirectories .schema "orders" content)
    .schema "orders_later" laterContent)

theorem mirrors_laterGateway {content laterContent : String}
    (rendered : FileStore.renderDocument FileStore.submitted = .ok content)
    (laterRendered : FileStore.renderDocument laterSchema = .ok laterContent) :
    FileStore.configStore.Mirrors (laterGateway content laterContent).disk laterMemory := by
  have first := FileStore.mirrors_configDirectories.withSchema (by decide) rendered (by decide)
  have second := first.withSchema (by decide) laterRendered (by decide)
  exact second

/-- An underscore comes after the dot, so both backends list and report the two schemas alike. -/
theorem orders_reported_alike :
    ∃ content laterContent, FileStore.renderDocument FileStore.submitted = .ok content ∧
      FileStore.renderDocument laterSchema = .ok laterContent ∧
      let files := laterGateway content laterContent
      let inMemory := { files with backend := .memory laterMemory }
      FileStore.configStore.Mirrors files.disk laterMemory ∧ laterMemory.snapshot.FilesFollow ∧
        (∀ schema ∈ laterMemory.snapshot.schemas, schema.Fits) ∧
        files.snapshot = .ok laterMemory.snapshot ∧
        (files.pass laterMemory.snapshot).2.reports =
          (inMemory.pass laterMemory.snapshot).2.reports := by
  have small : StoredObject.version FileStore.submitted ≤ Toml.maxInteger := by decide
  have laterSmall : StoredObject.version laterSchema ≤ Toml.maxInteger := by decide
  obtain ⟨content, rendered⟩ := FileStore.renderDocument_of_small small
  obtain ⟨laterContent, laterRendered⟩ := FileStore.renderDocument_of_small laterSmall
  have mirrors := mirrors_laterGateway rendered laterRendered
  have follow : laterMemory.snapshot.FilesFollow := by
    constructor
    · exact (filesFollow_iff laterMemory.schemas.ascending_names).2 (by decide +kernel)
    · exact (filesFollow_iff laterMemory.maps.ascending_names).2 (by decide +kernel)
  have fits : ∀ schema ∈ laterMemory.snapshot.schemas, schema.Fits := by decide +kernel
  obtain ⟨listed, read, -, -, -, -, same, alike⟩ :=
    backends_alike (laterGateway content laterContent) FileStore.configStore laterMemory mirrors
  obtain rfl := same.2 follow
  exact ⟨content, laterContent, rendered, laterRendered, mirrors, follow, fits, read,
    ((alike follow).2.2 fits).2⟩

/-! Two schemas of which one is named by the other's name, a dash and more. -/

def ordersSchema : Schema where
  name := "orders"
  source := "type Query { total: Int }"
  resolverMap := "shared"
  version := 1

def archiveSchema : Schema where
  name := "orders-archive"
  source := "type Query { count: Int }"
  resolverMap := "shared"
  version := 1

def emptyMap : ResolverMap where
  name := "shared"
  version := 1

def archiveDisk : Disk where
  entries :=
    [(["config"], .directory), (["config", "schemas"], .directory),
      (["config", "resolver_maps"], .directory),
      (["config", "schemas", "orders-archive.toml"],
        .text ("name = \"orders-archive\"\nresolver_map = \"shared\"\n" ++
          "inline_schema = \"type Query { count: Int }\"\nresource_version = 1\n")),
      (["config", "schemas", "orders.toml"],
        .text ("name = \"orders\"\nresolver_map = \"shared\"\n" ++
          "inline_schema = \"type Query { total: Int }\"\nresource_version = 1\n")),
      (["config", "resolver_maps", "shared.toml"],
        .text "name = \"shared\"\nresource_version = 1\n")]

def archiveGateway : Gateway := configGateway archiveDisk

def archiveMemory : MemoryStore where
  schemas := ((∅ : Catalog Schema).put ordersSchema).put archiveSchema
  maps := (∅ : Catalog ResolverMap).put emptyMap

theorem listed_archiveDisk :
    FileStore.configStore.listed archiveDisk = .ok [archiveSchema, ordersSchema] ∧
      FileStore.configStore.listed archiveDisk = .ok [emptyMap] := by
  have schemas : FileStore.documentNames (archiveDisk.namesIn ["config", "schemas"]) =
      ["orders-archive.toml", "orders.toml"] := List.mergeSort_of_pairwise (by decide)
  have maps : FileStore.documentNames (archiveDisk.namesIn ["config", "resolver_maps"]) =
      ["shared.toml"] := List.mergeSort_of_pairwise (by decide)
  constructor
  · rw [FileStore.listed_eq, show archiveDisk.look _ = .ok .directory from
      Disk.look_eq_directory_iff.2 (by decide)]
    change (FileStore.documentNames (archiveDisk.namesIn ["config", "schemas"])).mapM _ = _
    rw [schemas]
    decide +kernel
  · rw [FileStore.listed_eq, show archiveDisk.look _ = .ok .directory from
      Disk.look_eq_directory_iff.2 (by decide)]
    change (FileStore.documentNames (archiveDisk.namesIn ["config", "resolver_maps"])).mapM _ = _
    rw [maps]
    decide +kernel

def toldIn (reports : List Report) : List (ObjectRef × Option String) :=
  reports.map fun report => (report.object, report.failure.map Failure.message)

/-- In files the archive comes first, in memory it comes last, and the reasons that the map is given
are the other way round as well. -/
theorem archive_listed_first :
    let inMemory := { archiveGateway with backend := .memory archiveMemory }
    let missing := "failed to generate resolvers from map: no resolver for field Query."
    archiveGateway.snapshot = .ok ⟨[archiveSchema, ordersSchema], [emptyMap]⟩ ∧
      inMemory.snapshot = .ok ⟨[ordersSchema, archiveSchema], [emptyMap]⟩ ∧
      toldIn (archiveGateway.pass ⟨[archiveSchema, ordersSchema], [emptyMap]⟩).2.reports =
        [(⟨.schema, "orders-archive"⟩, none), (⟨.schema, "orders"⟩, none),
          (⟨.resolverMap, "shared"⟩,
            some ("2 errors occurred: " ++ missing ++ "count; " ++ missing ++ "total"))] ∧
      toldIn (inMemory.pass ⟨[ordersSchema, archiveSchema], [emptyMap]⟩).2.reports =
        [(⟨.schema, "orders"⟩, none), (⟨.schema, "orders-archive"⟩, none),
          (⟨.resolverMap, "shared"⟩,
            some ("2 errors occurred: " ++ missing ++ "total; " ++ missing ++ "count"))] := by
  intro inMemory missing
  have read : inMemory.snapshot = .ok archiveMemory.snapshot := Gateway.snapshot_of_memory rfl
  have objects : archiveMemory.snapshot = ⟨[ordersSchema, archiveSchema], [emptyMap]⟩ := by
    decide +kernel
  rw [objects] at read
  refine ⟨Gateway.snapshot_of_files rfl listed_archiveDisk.1 listed_archiveDisk.2, read, ?_, ?_⟩
  · rw [(archiveGateway.published _).2]
    decide +kernel
  · rw [(inMemory.published _).2]
    decide +kernel

end GatewayControl
