import GatewayControl.Proofs.Bootstrapping
import GatewayControl.Proofs.Ownership

/-!
Deriving from one snapshot again and again. The store moves on and the snapshot does not, so each
bootstrap finds out for itself how far an earlier one has got: it writes the reference of its schema
once, creates the map once, and then leaves both alone.
-/

namespace GatewayControl

open GraphQL (TypeSystem)

def StoreCall.created? (call : StoreCall) (reply : call.Reply) : Option ObjectRef :=
  (call.creates? reply).map StoredItem.ref

section

variable {σ : Type}

def Step.updated? : Step DeriveCall.Reply σ → Option ObjectRef
  | ⟨_, .store call, reply, _⟩ => call.updated? reply
  | _ => none

def Step.created? : Step DeriveCall.Reply σ → Option ObjectRef
  | ⟨_, .store call, reply, _⟩ => call.created? reply
  | _ => none

def updatesOf (schema : String) (steps : List (Step DeriveCall.Reply σ)) : Nat :=
  steps.countP fun step => step.updated? = some ⟨.schema, schema⟩

def creationsOf (schema : String) (steps : List (Step DeriveCall.Reply σ)) : Nat :=
  steps.countP fun step => step.created? = some ⟨.resolverMap, generatedMapName schema⟩

theorem updatesOf_concat (schema : String) (past : List (Step DeriveCall.Reply σ))
    (step : Step DeriveCall.Reply σ) :
    updatesOf schema (past ++ [step]) =
      updatesOf schema past + if step.updated? = some ⟨.schema, schema⟩ then 1 else 0 := by
  simp [updatesOf, List.countP_append, List.countP_singleton]

theorem creationsOf_concat (schema : String) (past : List (Step DeriveCall.Reply σ))
    (step : Step DeriveCall.Reply σ) :
    creationsOf schema (past ++ [step]) = creationsOf schema past +
      if step.created? = some ⟨.resolverMap, generatedMapName schema⟩ then 1 else 0 := by
  simp [creationsOf, List.countP_append, List.countP_singleton]

end

/-- How far the bootstrap of a schema has got in a store, after so many updates of the schema and so
many creations of its map. -/
inductive Progress (schema : Schema) (system : TypeSystem) (store : MemoryStore) : Nat → Nat → Prop
  | untouched : store.schemas.get? schema.name = some schema →
      store.maps.get? (generatedMapName schema.name) = none → Progress schema system store 0 0
  | referring : store.schemas.get? schema.name = some schema.referring →
      store.maps.get? (generatedMapName schema.name) = none → Progress schema system store 1 0
  | generated : store.schemas.get? schema.name = some schema.referring →
      store.maps.get? (generatedMapName schema.name) = some (schema.generated system) →
      Progress schema system store 1 1

section

variable {schema : Schema} {system : TypeSystem} {snapshot : Snapshot} {store after : MemoryStore}
  {call : StoreCall} {reply : call.Reply} {updates creations : Nat}

namespace Progress

theorem bounded (progress : Progress schema system store updates creations) :
    updates ≤ 1 ∧ creations ≤ updates := by
  cases progress <;> decide

theorem generated_of_created (progress : Progress schema system store updates creations)
    (created : 1 ≤ creations) :
    store.schemas.get? schema.name = some schema.referring ∧
      store.maps.get? (generatedMapName schema.name) = some (schema.generated system) := by
  cases progress with
  | untouched | referring => cases created
  | generated found present => exact ⟨found, present⟩

theorem of_same (progress : Progress schema system store updates creations)
    (schemas : after.schemas.get? schema.name = store.schemas.get? schema.name)
    (maps : after.maps.get? (generatedMapName schema.name) =
      store.maps.get? (generatedMapName schema.name)) :
    Progress schema system after updates creations := by
  cases progress with
  | untouched found absent => exact .untouched (schemas.trans found) (maps.trans absent)
  | referring found absent => exact .referring (schemas.trans found) (maps.trans absent)
  | generated found present => exact .generated (schemas.trans found) (maps.trans present)

theorem eq_zero_of_unreferred (progress : Progress schema system store updates creations)
    {stored : Schema} (found : store.schemas.get? schema.name = some stored)
    (unreferred : stored.resolverMap = "") :
    updates = 0 ∧ creations = 0 ∧ stored = schema ∧
      store.maps.get? (generatedMapName schema.name) = none := by
  cases progress with
  | untouched present absent =>
      cases present.symm.trans found
      exact ⟨rfl, rfl, rfl, absent⟩
  | referring present | generated present =>
      cases present.symm.trans found
      exact absurd unreferred (generatedMapName_ne_empty _)

theorem eq_one_of_absent (progress : Progress schema system store updates creations)
    (unnamed : schema.resolverMap = "") {stored : Schema}
    (found : store.schemas.get? schema.name = some stored)
    (refers : stored.resolverMap = generatedMapName schema.name)
    (absent : store.maps.get? (generatedMapName schema.name) = none) :
    updates = 1 ∧ creations = 0 ∧ stored = schema.referring := by
  cases progress with
  | untouched present =>
      cases present.symm.trans found
      exact absurd (refers.symm.trans unnamed) (generatedMapName_ne_empty _)
  | referring present =>
      cases present.symm.trans found
      exact ⟨rfl, rfl, rfl⟩
  | generated _ present => cases absent.symm.trans present

theorem refer (progress : Progress schema system store updates creations) {stored : Schema}
    (found : store.schemas.get? schema.name = some stored) (unreferred : stored.resolverMap = "") :
    Progress schema system { store with schemas := store.schemas.put { stored with
      resolverMap := generatedMapName schema.name, version := nextVersion stored.version } }
      (updates + 1) creations := by
  obtain ⟨rfl, rfl, rfl, absent⟩ := progress.eq_zero_of_unreferred found unreferred
  exact .referring Catalog.get?_put_self absent

theorem create (progress : Progress schema system store updates creations)
    (unnamed : schema.resolverMap = "") {stored : Schema}
    (found : store.schemas.get? schema.name = some stored)
    (refers : stored.resolverMap = generatedMapName schema.name)
    (absent : store.maps.get? (generatedMapName schema.name) = none) :
    Progress schema system { store with maps := store.maps.put (schema.generated system) } updates
      (creations + 1) := by
  obtain ⟨rfl, rfl, rfl⟩ := progress.eq_one_of_absent unnamed found refers absent
  exact .generated found Catalog.get?_put_self

end Progress

theorem Asked.untouched {asked : Schema} (asks : Asked snapshot [] store (.updateSchema asked))
    (named : asked.name = schema.name) (progress : Progress schema system store updates creations) :
    updates = 0 := by
  generalize called : StoreCall.updateSchema asked = call at asks
  cases asks with
  | get object =>
      obtain ⟨kind, name⟩ := object
      cases kind <;> cases called
  | @refer asking stored member valid unnamed found unreferred =>
      cases called
      have own : asking.name = schema.name := (Catalog.name_of_get? found).symm.trans named
      rw [own] at found
      exact (progress.eq_zero_of_unreferred found unreferred).1
  | create => cases called
  | restate reported => exact (List.not_mem_nil reported).elim

theorem Asked.progresses (asked : Asked snapshot [] store call)
    (answers : store.Answers call reply after)
    (single : ∀ other ∈ snapshot.schemas, other.name = schema.name → other = schema)
    (unnamed : schema.resolverMap = "") (parsed : TypeSystem.parse schema.source = .ok system)
    (progress : Progress schema system store updates creations) :
    Progress schema system after
      (updates + if call.updated? reply = some ⟨.schema, schema.name⟩ then 1 else 0)
      (creations + if call.created? reply = some ⟨.resolverMap, generatedMapName schema.name⟩ then 1
        else 0) := by
  cases asked with
  | get object =>
      rw [answers.of_get.1]
      simpa [StoreCall.updated?, StoreCall.created?, StoreCall.updates?_get,
        StoreCall.creates?_get] using progress
  | @refer asking stored member valid unnamed' found unreferred =>
      have named : stored.name = asking.name := Catalog.name_of_get? found
      obtain ⟨schemas, written, rfl⟩ := answers
      rcases written.cases with ⟨rfl, fault, rfl⟩ | ⟨current, present, -, rfl, rfl⟩
      · exact progress
      · have present : store.schemas.get? stored.name = some current := present
        rw [named, found] at present
        cases present
        by_cases own : asking.name = schema.name
        · have next := progress.refer (own ▸ found) unreferred
          simpa [StoreCall.updated?, StoreCall.created?, StoreCall.updates?, StoreCall.creates?,
            StoredItem.ref, StoredObject.withVersion, StoredObject.version, named, own] using next
        · have other : stored.name ≠ schema.name := fun same => own (named.symm.trans same)
          have unmoved : Progress schema system { store with
              schemas := store.schemas.put { stored with
                resolverMap := generatedMapName asking.name, version := nextVersion stored.version } }
              updates creations :=
            progress.of_same (Catalog.get?_put_of_ne (Ne.symm other)) rfl
          simpa [StoreCall.updated?, StoreCall.created?, StoreCall.updates?, StoreCall.creates?,
            StoredItem.ref, StoredObject.withVersion, StoredObject.version, other] using unmoved
  | @create asking stored read member valid unnamed' parsed' found refers =>
      obtain ⟨maps, written, rfl⟩ := answers
      rcases written.cases with ⟨rfl, fault, rfl⟩ | ⟨-, absent, rfl, rfl⟩
      · exact progress
      · by_cases own : asking.name = schema.name
        · obtain rfl := single asking member own
          cases parsed'.symm.trans parsed
          have next := progress.create unnamed found refers absent
          simpa [StoreCall.updated?, StoreCall.created?, StoreCall.updates?, StoreCall.creates?,
            StoredItem.ref, StoredObject.withVersion, skeleton, Schema.generated] using next
        · have other : generatedMapName asking.name ≠ generatedMapName schema.name :=
            fun same => own (generatedMapName_inj same)
          have unmoved : Progress schema system { store with
              maps := store.maps.put
                { skeleton (generatedMapName asking.name) read with version := 1 } }
              updates creations :=
            progress.of_same rfl (Catalog.get?_put_of_ne (Ne.symm other))
          simpa [StoreCall.updated?, StoreCall.created?, StoreCall.updates?, StoreCall.creates?,
            StoredItem.ref, StoredObject.withVersion, skeleton, other] using unmoved
  | restate reported => exact (List.not_mem_nil reported).elim

theorem Step.Handles.progresses {ω : Type} {schemas : List Schema}
    {step : Step DeriveCall.Reply (Site ω)} (handles : step.Handles snapshot schemas)
    (single : ∀ other ∈ schemas, other.name = schema.name → other = schema)
    (unnamed : schema.resolverMap = "") (parsed : TypeSystem.parse schema.source = .ok system)
    (progress : Progress schema system step.before.store updates creations) :
    Progress schema system step.after.store
      (updates + if step.updated? = some ⟨.schema, schema.name⟩ then 1 else 0)
      (creations + if step.created? = some ⟨.resolverMap, generatedMapName schema.name⟩ then 1
        else 0) := by
  cases handles with
  | @stores other _ _ _ _ belongs _ asked answers =>
      refine asked.progresses answers ?_ unnamed parsed progress
      intro asking own
      rw [List.mem_singleton.1 own]
      exact single other belongs
  | registers same =>
      simp only [same]
      exact progress

/-- Whether a bootstrap of a schema would find nothing left to write in a store. -/
def Schema.BootstrappedIn (schema : Schema) (store : MemoryStore) : Prop :=
  ∀ stored, store.schemas.get? schema.name = some stored →
    stored.resolverMap ≠ "" ∧
      (stored.resolverMap = generatedMapName schema.name →
        store.maps.get? (generatedMapName schema.name) ≠ none)

theorem Asked.unchanged (asked : Asked snapshot [] store call)
    (answers : store.Answers call reply after)
    (complete : ∀ asking ∈ snapshot.schemas, asking.BootstrappedIn store) : after = store := by
  cases asked with
  | get object => exact answers.of_get.1
  | refer member valid unnamed found unreferred =>
      exact absurd unreferred (complete _ member _ found).1
  | create member valid unnamed parsed found refers =>
      obtain ⟨maps, written, rfl⟩ := answers
      rcases written.cases with ⟨rfl, -⟩ | ⟨-, absent, -⟩
      · rfl
      · exact absurd absent ((complete _ member _ found).2 refers)
  | restate reported => exact (List.not_mem_nil reported).elim

end

def replays (proxy : Proxy) (snapshot : Snapshot) : Nat → DeriveProgram Unit
  | 0 => .done ()
  | count + 1 => (replays proxy snapshot count).bind fun _ =>
      (deriveEndpoints proxy snapshot).bind fun _ => .done ()

namespace Site

variable {ω : Type} (operator : OperatorHandler ω) (proxy : Proxy) (snapshot : Snapshot)
  (site : Site ω)

def replayed (count : Nat) : Site ω :=
  ((replays proxy snapshot count).run (deriveHandler handleStore (handleOperator operator)) site).2

def replayCalls (count : Nat) : List (Step DeriveCall.Reply (Site ω)) :=
  (replays proxy snapshot count).steps (deriveHandler handleStore (handleOperator operator)) site

def Spared (site : Site ω) : Prop := ∀ fault ∈ site.faults.head?, fault = none

/-- Whether neither the request for a schema nor the creation of its map is made to fail by a run. -/
def SparesBootstrap (steps : List (Step DeriveCall.Reply (Site ω))) (schema : String) : Prop :=
  ∀ step ∈ steps, (step.call = .store (.getSchema schema) ∨
    ∃ map, step.call = .store (.createMap map) ∧ map.name = generatedMapName schema) →
    step.before.Spared

theorem replayed_succ (count : Nat) :
    replayed operator proxy snapshot site (count + 1) =
      (derived operator proxy snapshot (replayed operator proxy snapshot site count)).2 := by
  simp only [replayed, replays, Program.run_bind, Program.run_done, derived]

theorem replayCalls_succ (count : Nat) :
    replayCalls operator proxy snapshot site (count + 1) =
      replayCalls operator proxy snapshot site count ++
        (deriveEndpoints proxy snapshot).steps (deriveHandler handleStore (handleOperator operator))
          (replayed operator proxy snapshot site count) := by
  simp only [replayCalls, replays, Program.steps_bind, Program.steps_done, List.append_nil]
  rfl

variable {operator proxy snapshot site}

theorem handles_of_replay {count : Nat} {step : Step DeriveCall.Reply (Site ω)}
    (member : step ∈ replayCalls operator proxy snapshot site count) :
    step.Handles snapshot snapshot.schemas := by
  induction count with
  | zero => exact (List.not_mem_nil member).elim
  | succ count ih =>
      rw [replayCalls_succ, List.mem_append, steps_deriveEndpoints] at member
      exact member.elim ih handles_of_handleSchemas

section

variable {schema : Schema} {system : TypeSystem}

theorem progresses_of_replay {count : Nat}
    (single : ∀ other ∈ snapshot.schemas, other.name = schema.name → other = schema)
    (unnamed : schema.resolverMap = "") (parsed : TypeSystem.parse schema.source = .ok system) :
    ∀ step ∈ replayCalls operator proxy snapshot site count,
      ∀ past : List (Step DeriveCall.Reply (Site ω)),
        Progress schema system step.before.store (updatesOf schema.name past)
          (creationsOf schema.name past) →
        Progress schema system step.after.store (updatesOf schema.name (past ++ [step]))
          (creationsOf schema.name (past ++ [step])) := by
  intro step member past progress
  rw [updatesOf_concat, creationsOf_concat]
  exact (handles_of_replay member).progresses single unnamed parsed progress

theorem progress_replayed (operator : OperatorHandler ω) (proxy : Proxy) (count : Nat)
    (single : ∀ other ∈ snapshot.schemas, other.name = schema.name → other = schema)
    (unnamed : schema.resolverMap = "") (parsed : TypeSystem.parse schema.source = .ok system)
    (start : Progress schema system site.store 0 0) :
    let calls := replayCalls operator proxy snapshot site count
    Progress schema system (replayed operator proxy snapshot site count).store
      (updatesOf schema.name calls) (creationsOf schema.name calls) :=
  Program.holds_recording (fun past (point : Site ω) =>
    Progress schema system point.store (updatesOf schema.name past) (creationsOf schema.name past))
    [] start (progresses_of_replay single unnamed parsed)

theorem no_update_after_update {count : Nat}
    (single : ∀ other ∈ snapshot.schemas, other.name = schema.name → other = schema)
    (unnamed : schema.resolverMap = "") (parsed : TypeSystem.parse schema.source = .ok system)
    (start : Progress schema system site.store 0 0)
    {earlier later : List (Step DeriveCall.Reply (Site ω))} {step : Step DeriveCall.Reply (Site ω)}
    (made : replayCalls operator proxy snapshot site count = earlier ++ step :: later)
    (updated : step.updated? = some ⟨.schema, schema.name⟩) :
    ∀ attempt ∈ later, ∀ asked, attempt.call = .store (.updateSchema asked) →
      asked.name ≠ schema.name := by
  intro attempt member asked asks named
  obtain ⟨between, rest, rfl⟩ := List.append_of_mem member
  have split : replayCalls operator proxy snapshot site count =
      (earlier ++ step :: between) ++ attempt :: rest := by
    rw [made, List.append_assoc, List.cons_append]
  have progress := Program.holds_before (fun past (point : Site ω) =>
    Progress schema system point.store (updatesOf schema.name past) (creationsOf schema.name past))
    [] start (progresses_of_replay single unnamed parsed) split
  have listed : attempt ∈ replayCalls operator proxy snapshot site count := by
    rw [split]
    exact List.mem_append_right _ List.mem_cons_self
  cases handles_of_replay listed with
  | stores _ _ allowed _ =>
      cases asks
      have unupdated := allowed.untouched named progress
      simp [updatesOf, List.countP_append, updated] at unupdated
  | registers => cases asks

/-! What a run reports once the reference is there. -/

theorem handleStore_of_spared (call : StoreCall) {site : Site ω} (spared : site.Spared) :
    (handleStore call site).1 = (MemoryStore.handle call site.store).1 ∧
      (handleStore call site).2.store = (MemoryStore.handle call site.store).2 := by
  obtain ⟨store, faults, table, state⟩ := site
  match faults with
  | some fault :: faults => cases spared (some fault) rfl
  | none :: faults => exact ⟨rfl, rfl⟩
  | [] => exact ⟨rfl, rfl⟩

theorem createSkeleton_accepted {map : ResolverMap} (valid : ValidName map.name)
    (spared : site.Spared) : ((createSkeleton map true).run handleStore site).1 = .ok () := by
  have created := (handleStore_of_spared (.createMap map) spared).1
  have noFault : nameFault (StoredObject.name map) = none := valid
  simp only [MemoryStore.handle, MemoryStore.createIn, noFault] at created
  rw [createSkeleton]
  simp only [Program.run_call, created]
  cases site.store.maps.get? (StoredObject.name map) <;> rfl

theorem bootstrap_accepted {creations : Nat} (valid : ValidName schema.name)
    (parsed : TypeSystem.parse schema.source = .ok system)
    (progress : Progress schema system site.store 1 creations)
    (spared : ∀ step ∈ (bootstrap schema).steps handleStore site,
      (step.call = .getSchema schema.name ∨
        ∃ map, step.call = .createMap map ∧ map.name = generatedMapName schema.name) →
      step.before.Spared) :
    ((bootstrap schema).run handleStore site).1 = .ok () := by
  have found : site.store.schemas.get? schema.name = some schema.referring := by
    cases progress <;> assumption
  rw [bootstrap, parsed] at spared ⊢
  simp only [Program.run_call, Program.steps_call, List.forall_mem_cons] at spared ⊢
  obtain ⟨first, rest⟩ := spared
  have got : (handleStore (.getSchema schema.name) site).1 = .ok schema.referring := by
    rw [(handleStore_of_spared _ (first (.inl trivial))).1]
    simp only [MemoryStore.handle, MemoryStore.getIn, found]
  have refers : schema.referring.resolverMap = generatedMapName schema.name := rfl
  simp only [got, refers, skeleton, if_neg (generatedMapName_ne_empty schema.name), if_true] at rest ⊢
  refine createSkeleton_accepted (validName_generatedMapName valid) ?_
  exact rest _ List.mem_cons_self (.inr ⟨_, rfl, rfl⟩)

theorem handleSchemas_keeps_reference (operator : OperatorHandler ω) (proxy : Proxy)
    (snapshot : Snapshot) {schemas : List Schema} {creations : Nat}
    (single : ∀ other ∈ schemas, other.name = schema.name → other = schema)
    (unnamed : schema.resolverMap = "") (parsed : TypeSystem.parse schema.source = .ok system)
    (progress : Progress schema system site.store 1 creations) :
    ∃ creations, Progress schema system ((handleSchemas proxy snapshot schemas).run
      (deriveHandler handleStore (handleOperator operator)) site).2.store 1 creations := by
  refine Program.holds_along (fun point : Site ω =>
    ∃ creations, Progress schema system point.store 1 creations) ⟨creations, progress⟩ ?_ _
    (Program.end_mem_points _ _ _)
  rintro step member ⟨creations, progress⟩
  have next := (handles_of_handleSchemas member).progresses single unnamed parsed progress
  have bound := next.bounded.1
  split at bound
  · omega
  · rename_i other
    rw [if_neg other] at next
    exact ⟨_, next⟩

theorem accepts_of_referring {creations : Nat} (member : schema ∈ snapshot.schemas)
    (distinct : (snapshot.schemas.map Schema.name).Nodup)
    (single : ∀ other ∈ snapshot.schemas, other.name = schema.name → other = schema)
    (valid : ValidName schema.name) (unnamed : schema.resolverMap = "")
    (parsed : TypeSystem.parse schema.source = .ok system)
    (progress : Progress schema system site.store 1 creations)
    (spared : SparesBootstrap ((deriveEndpoints proxy snapshot).steps
      (deriveHandler handleStore (handleOperator operator)) site) schema.name) :
    (derived operator proxy snapshot site).1.reports.filter (fun report =>
      report.object = ⟨.schema, schema.name⟩) = [⟨⟨.schema, schema.name⟩, none⟩] := by
  obtain ⟨before, after, split⟩ := List.append_of_mem member
  have earlier : ∀ other ∈ before, other.name = schema.name → other = schema := fun other belongs =>
    single other (by rw [split]; exact List.mem_append_left _ belongs)
  obtain ⟨creations, progress⟩ := handleSchemas_keeps_reference operator proxy snapshot
    earlier unnamed parsed progress
  have noFault : nameFault schema.name = none := valid
  have accepted := bootstrap_accepted valid parsed progress fun step made concerns => by
    refine spared (step.embed DeriveCall.store) ?_ ?_
    · rw [steps_deriveEndpoints, split, handleSchemas_append, Program.steps_bind, List.mem_append,
        Program.steps_bind, List.mem_append, handleSchemas, Program.steps_bind, List.mem_append,
        handleSchema, noFault]
      simp only [unnamed, if_true, Program.steps_bind, Program.steps_embed, Program.steps_done,
        List.append_nil]
      exact .inr (.inl (.inl (List.mem_map_of_mem made)))
    · rcases concerns with gets | ⟨map, creates, named⟩
      · exact .inl (congrArg DeriveCall.store gets)
      · exact .inr ⟨map, congrArg DeriveCall.store creates, named⟩
  rw [derived, reports_of_schema distinct split, outcomeIn_of_unnamed valid unnamed]
  have result : bootstrapResult (deriveHandler handleStore (handleOperator operator)) schema
      ((handleSchemas proxy snapshot before).run
        (deriveHandler handleStore (handleOperator operator)) site).2 = .ok () := accepted
  rw [result]
  rfl

/-! What later runs leave alone. -/

theorem replayCalls_add (operator : OperatorHandler ω) (proxy : Proxy) (snapshot : Snapshot)
    (site : Site ω) (count more : Nat) :
    ∃ later, replayCalls operator proxy snapshot site (count + more) =
      replayCalls operator proxy snapshot site count ++ later := by
  induction more with
  | zero => exact ⟨[], (List.append_nil _).symm⟩
  | succ more ih =>
      obtain ⟨later, calls⟩ := ih
      rw [← Nat.add_assoc, replayCalls_succ, calls, List.append_assoc]
      exact ⟨_, rfl⟩

theorem generated_replayed (operator : OperatorHandler ω) (proxy : Proxy) {count : Nat} (more : Nat)
    (single : ∀ other ∈ snapshot.schemas, other.name = schema.name → other = schema)
    (unnamed : schema.resolverMap = "") (parsed : TypeSystem.parse schema.source = .ok system)
    (start : Progress schema system site.store 0 0)
    (created : creationsOf schema.name (replayCalls operator proxy snapshot site count) = 1) :
    (replayed operator proxy snapshot site (count + more)).store.schemas.get? schema.name =
        some schema.referring ∧
      (replayed operator proxy snapshot site (count + more)).store.maps.get?
        (generatedMapName schema.name) = some (schema.generated system) := by
  obtain ⟨later, calls⟩ := replayCalls_add operator proxy snapshot site count more
  have progress := progress_replayed operator proxy (count + more) single unnamed parsed start
  have atLeastOnce : 1 ≤ creationsOf schema.name
      (replayCalls operator proxy snapshot site (count + more)) := by
    rw [calls, creationsOf, List.countP_append, ← creationsOf, created]
    exact Nat.le_add_right 1 _
  exact progress.generated_of_created atLeastOnce

theorem store_derived_of_bootstrapped
    (complete : ∀ other ∈ snapshot.schemas, other.Bootstraps → other.BootstrappedIn site.store) :
    (derived operator proxy snapshot site).2.store = site.store := by
  have kept : ∀ step ∈ (handleSchemas proxy snapshot snapshot.schemas).steps
      (deriveHandler handleStore (handleOperator operator)) site,
      step.before.store = site.store → step.after.store = site.store := by
    intro step member same
    cases handles_of_handleSchemas member with
    | stores belongs bootstraps asked answers =>
        refine (asked.unchanged answers fun asking own => ?_).trans same
        rw [List.mem_singleton.1 own, same]
        exact complete _ belongs bootstraps
    | registers unmoved => exact unmoved.trans same
  rw [derived_eq_handleSchemas]
  exact Program.holds_along (fun point : Site ω => point.store = site.store) rfl kept _
    (Program.end_mem_points _ _ _)

theorem store_replayed_of_bootstrapped {count : Nat} (more : Nat)
    (complete : ∀ other ∈ snapshot.schemas, other.Bootstraps →
      other.BootstrappedIn (replayed operator proxy snapshot site count).store) :
    (replayed operator proxy snapshot site (count + more)).store =
      (replayed operator proxy snapshot site count).store := by
  induction more with
  | zero => rfl
  | succ more ih =>
      rw [← Nat.add_assoc, replayed_succ, store_derived_of_bootstrapped, ih]
      rw [ih]
      exact complete

end

end Site

/-- However often a store's snapshot is derived from, and whichever calls fail, a schema that is to
be bootstrapped is updated at most once, its map is created at most once, and no update follows one
that succeeded. A run after that update accepts the schema if it is left to ask for the schema and
for the map. After both writes the two stay as they are, and so does all of the store unless another
schema is still to be bootstrapped. -/
theorem replays_bootstrap_once {ω : Type} (operator : OperatorHandler ω) (proxy : Proxy)
    (site : Site ω) (schema : Schema) (system : TypeSystem)
    (stored : site.store.schemas.get? schema.name = some schema) (valid : ValidName schema.name)
    (parsed : TypeSystem.parse schema.source = .ok system) (unnamed : schema.resolverMap = "")
    (absent : site.store.maps.get? (generatedMapName schema.name) = none) (count : Nat) :
    let snapshot := site.store.snapshot
    let calls := Site.replayCalls operator proxy snapshot site count
    let after := Site.replayed operator proxy snapshot site count
    updatesOf schema.name calls ≤ 1 ∧ creationsOf schema.name calls ≤ 1 ∧
    (∀ earlier step later, calls = earlier ++ step :: later →
      step.updated? = some ⟨.schema, schema.name⟩ →
      ∀ attempt ∈ later, ∀ asked, attempt.call = .store (.updateSchema asked) →
        asked.name ≠ schema.name) ∧
    (updatesOf schema.name calls = 1 →
      Site.SparesBootstrap ((deriveEndpoints proxy snapshot).steps
        (deriveHandler Site.handleStore (Site.handleOperator operator)) after) schema.name →
      (after.derived operator proxy snapshot).1.reports.filter (fun report =>
        report.object = ⟨.schema, schema.name⟩) = [⟨⟨.schema, schema.name⟩, none⟩]) ∧
    (updatesOf schema.name calls = 1 → creationsOf schema.name calls = 1 →
      after.store.maps.get? (generatedMapName schema.name) =
        some { skeleton (generatedMapName schema.name) system with version := 1 } ∧
      ∀ more,
        let later := Site.replayed operator proxy snapshot site (count + more)
        later.store.schemas.get? schema.name = after.store.schemas.get? schema.name ∧
        later.store.maps.get? (generatedMapName schema.name) =
          after.store.maps.get? (generatedMapName schema.name) ∧
        ((∀ other ∈ snapshot.schemas, other.Bootstraps → other.name ≠ schema.name →
          other.BootstrappedIn after.store) → later.store = after.store)) := by
  intro snapshot calls after
  have member : schema ∈ snapshot.schemas := MemoryStore.mem_schemas_snapshot.2 stored
  have single : ∀ other ∈ snapshot.schemas, other.name = schema.name → other = schema :=
    fun _ => MemoryStore.eq_of_mem_snapshot stored
  have start : Progress schema system site.store 0 0 := .untouched stored absent
  have progress : Progress schema system after.store (updatesOf schema.name calls)
      (creationsOf schema.name calls) :=
    Site.progress_replayed operator proxy count single unnamed parsed start
  obtain ⟨once, ordered⟩ := progress.bounded
  refine ⟨once, Nat.le_trans ordered once, ?_, ?_, ?_⟩
  · intro earlier step later made updated
    exact Site.no_update_after_update single unnamed parsed start made updated
  · intro updated spared
    rw [updated] at progress
    exact Site.accepts_of_referring member (Catalog.nodup_names_values _) single valid unnamed
      parsed progress spared
  · intro _ created
    obtain ⟨refers, present⟩ :=
      Site.generated_replayed operator proxy 0 single unnamed parsed start created
    refine ⟨present, fun more => ?_⟩
    obtain ⟨laterRefers, laterPresent⟩ :=
      Site.generated_replayed operator proxy more single unnamed parsed start created
    refine ⟨laterRefers.trans refers.symm, laterPresent.trans present.symm, fun others => ?_⟩
    refine Site.store_replayed_of_bootstrapped more fun other belongs bootstraps => ?_
    by_cases own : other.name = schema.name
    · obtain rfl := single other belongs own
      intro found known
      cases known.symm.trans refers
      exact ⟨generatedMapName_ne_empty _, fun _ missing => nomatch missing.symm.trans present⟩
    · exact others other belongs bootstraps own

/-- The creation of the map fails in the first run, and the second run makes up for it. -/
theorem orders_bootstrapped_once :
    let snapshot := halfwaySite.store.snapshot
    let calls := Site.replayCalls idleOperator halfwayProxy snapshot halfwaySite 2
    let after := Site.replayed idleOperator halfwayProxy snapshot halfwaySite 2
    updatesOf "orders" calls = 1 ∧ creationsOf "orders" calls = 1 ∧
      (after.derived idleOperator halfwayProxy snapshot).1.reports.filter (fun report =>
        report.object = ⟨.schema, "orders"⟩) = [⟨⟨.schema, "orders"⟩, none⟩] ∧
      ∀ more, (Site.replayed idleOperator halfwayProxy snapshot halfwaySite (2 + more)).store =
        after.store := by
  intro snapshot calls after
  have updated : updatesOf "orders" calls = 1 := by decide +kernel
  have created : creationsOf "orders" calls = 1 := by decide +kernel
  have faultless : ∀ step ∈ (deriveEndpoints halfwayProxy snapshot).steps
      (deriveHandler Site.handleStore (Site.handleOperator idleOperator)) after,
      step.before.faults = [] := by
    decide +kernel
  have alone : ∀ other ∈ snapshot.schemas, other.name = "orders" := by decide +kernel
  obtain ⟨system, parsed⟩ : ∃ system, TypeSystem.parse "type Query { total: Int }" = .ok system :=
    exists_ok_of_isSome (by decide +kernel)
  obtain ⟨-, -, -, accepts, stays⟩ := replays_bootstrap_once idleOperator halfwayProxy
    halfwaySite { name := "orders", source := "type Query { total: Int }", version := 1 } system
    (by decide +kernel) (by decide) parsed rfl (by decide +kernel) 2
  refine ⟨updated, created, accepts updated ?_, ?_⟩
  · intro step member _ fault given
    rw [faultless step member] at given
    cases given
  · intro more
    apply ((stays updated created).2 more).2.2
    intro other belongs _ different
    exact absurd (alone other belongs) different

def twofoldSite : Site Unit where
  store := (({} : MemoryStore).putSchema
    { name := "orders", source := "type Query { total: Int }" }).putSchema
      { name := "users", source := "type Query { name: String }" }
  faults := [some (.io "disk busy")]
  operator := ()

/-- Both writes for one schema are made in the first run, and the second run changes the store. -/
theorem users_replay_bootstraps_orders :
    let schema : Schema :=
      { name := "users", source := "type Query { name: String }", version := 1 }
    let snapshot := twofoldSite.store.snapshot
    let calls := Site.replayCalls idleOperator halfwayProxy snapshot twofoldSite 1
    twofoldSite.store.schemas.get? schema.name = some schema ∧ ValidName schema.name ∧
      (TypeSystem.parse schema.source).toOption.isSome ∧ schema.resolverMap = "" ∧
      twofoldSite.store.maps.get? (generatedMapName schema.name) = none ∧
      updatesOf schema.name calls = 1 ∧ creationsOf schema.name calls = 1 ∧
      (Site.replayed idleOperator halfwayProxy snapshot twofoldSite 2).store ≠
        (Site.replayed idleOperator halfwayProxy snapshot twofoldSite 1).store := by
  decide +kernel

end GatewayControl
