import GatewayControl.Gateway
import GatewayControl.Proofs.ServedPaths
import Mathlib.Data.List.DropRight

/-!
Lookups of request paths. Both paths of every endpoint are keys of one index, and a later key takes
the place of an equal earlier one. So a lookup finds what a search through the list from its end would
find, for any names at all; for valid names that differ there is nothing to take the place of.
-/

namespace GatewayControl

/-! Slashes at the end of a path. -/

def slashes (count : Nat) : String := String.ofList (List.replicate count '/')

/-- Whether a path is another one with slashes after it, all its slashes at the end. A path of at most
one byte has none to lose. -/
def Trims (path bare : String) : Prop :=
  if path.utf8ByteSize ≤ 1 then path = bare
  else bare.toList.getLast? ≠ some '/' ∧ ∃ count, path = bare ++ slashes count

theorem rdropWhile_eq_iff {mark : Char} {text front : List Char} :
    text.rdropWhile (· = mark) = front ↔
      front.getLast? ≠ some mark ∧ ∃ count, text = front ++ List.replicate count mark := by
  constructor
  · rintro rfl
    constructor
    · intro last
      have nonempty : text.rdropWhile (· = mark) ≠ [] := fun empty => by simp [empty] at last
      rw [List.getLast?_eq_some_getLast nonempty, Option.some.injEq] at last
      exact List.rdropWhile_last_not _ _ nonempty (decide_eq_true last)
    · have marks : ∀ found ∈ text.rtakeWhile (· = mark), found = mark := fun found member => by
        simpa using List.mem_rtakeWhile_imp member
      refine ⟨(text.rtakeWhile (· = mark)).length, ?_⟩
      rw [← List.eq_replicate_of_mem marks, List.rdropWhile_append_rtakeWhile]
  · rintro ⟨last, count, rfl⟩
    induction count with
    | zero =>
        rw [List.replicate_zero, List.append_nil, List.rdropWhile_eq_self_iff]
        intro nonempty same
        rw [List.getLast?_eq_some_getLast nonempty, of_decide_eq_true same] at last
        exact last rfl
    | succ count ih =>
        rw [List.replicate_succ', ← List.append_assoc,
          List.rdropWhile_concat_pos _ _ _ (by simp), ih]

theorem trims_iff {path bare : String} : Trims path bare ↔ EndpointTable.trimPath path = bare := by
  rw [Trims, EndpointTable.trimPath]
  by_cases short : path.utf8ByteSize ≤ 1
  · rw [if_pos short, if_neg (by omega)]
  · have cut : String.ofList (path.toList.rdropWhile (· = '/')) = bare ↔
        path.toList.rdropWhile (· = '/') = bare.toList := by
      rw [← String.toList_inj, String.toList_ofList]
    have whole : ∀ count, path = bare ++ slashes count ↔
        path.toList = bare.toList ++ List.replicate count '/' := by
      intro count
      rw [← String.toList_inj, String.toList_append, slashes, String.toList_ofList]
    rw [if_neg short, if_pos (by omega)]
    simp only [whole]
    exact rdropWhile_eq_iff.symm.trans cut.symm

theorem Trims.append_slashes {bare : String} (trims : Trims bare bare)
    (long : 1 < bare.utf8ByteSize) (count : Nat) : Trims (bare ++ slashes count) bare := by
  rw [Trims, if_neg (by omega)] at trims
  rw [Trims, if_neg]
  · exact ⟨trims.1, count, rfl⟩
  · rw [String.utf8ByteSize_append]
    omega

theorem Trims.split {path bare : String} (trims : Trims path bare) :
    ∃ count, path = bare ++ slashes count := by
  rw [Trims] at trims
  split at trims
  · exact ⟨0, by rw [trims]; exact (String.append_empty).symm⟩
  · exact trims.2

/-! What is found. -/

theorem rootPath_ne_own_queryPath (name : String) : rootPath name ≠ queryPath name := by
  intro same
  have lengths := congrArg String.length same
  simp only [rootPath, queryPath, String.length_append] at lengths
  have longer : "/query".length = 6 := rfl
  omega

namespace Endpoint

def path (endpoint : Endpoint) : RouteKind → String
  | .root => endpoint.rootPath
  | .query => endpoint.queryPath

def kindAt? (endpoint : Endpoint) (path : String) : Option RouteKind :=
  if path = endpoint.rootPath then some .root
  else if path = endpoint.queryPath then some .query
  else none

theorem path_of_kindAt? {endpoint : Endpoint} {path : String} {kind : RouteKind}
    (found : endpoint.kindAt? path = some kind) : path = endpoint.path kind := by
  rw [kindAt?] at found
  split at found
  · rename_i root
    cases found
    exact root
  · split at found
    · rename_i query
      cases found
      exact query
    · cases found

theorem trims_path {endpoint : Endpoint} (valid : ValidName endpoint.schema) (kind : RouteKind)
    (count : Nat) : Trims (endpoint.path kind ++ slashes count) (endpoint.path kind) := by
  have nonempty : endpoint.schema.utf8ByteSize ≠ 0 := fun empty =>
    (validName_iff.1 valid).1 (String.utf8ByteSize_eq_zero_iff.1 empty)
  cases kind with
  | root =>
      refine Trims.append_slashes (trims_iff.2 (EndpointTable.trimPath_rootPath valid)) ?_ count
      have slash : "/".utf8ByteSize = 1 := by decide
      change 1 < ("/" ++ endpoint.schema).utf8ByteSize
      rw [String.utf8ByteSize_append]
      omega
  | query =>
      refine Trims.append_slashes (trims_iff.2 (EndpointTable.trimPath_queryPath _)) ?_ count
      have query : "/query".utf8ByteSize = 6 := by decide
      change 1 < ("/" ++ endpoint.schema ++ "/query").utf8ByteSize
      rw [String.utf8ByteSize_append]
      omega

end Endpoint

def lastAt? (endpoints : List Endpoint) (path : String) : Option (Endpoint × RouteKind) :=
  (endpoints.filterMap fun endpoint => (endpoint.kindAt? path).map fun kind => (endpoint, kind)).getLast?

theorem lastAt?_concat (endpoints : List Endpoint) (endpoint : Endpoint) (path : String) :
    lastAt? (endpoints ++ [endpoint]) path =
      ((endpoint.kindAt? path).map fun kind => (endpoint, kind)).or (lastAt? endpoints path) := by
  rw [lastAt?, List.filterMap_append, List.getLast?_append, List.filterMap_cons]
  cases endpoint.kindAt? path <;> rfl

theorem mem_of_lastAt? {endpoints : List Endpoint} {path : String} {found : Endpoint × RouteKind}
    (last : lastAt? endpoints path = some found) :
    found.1 ∈ endpoints ∧ path = found.1.path found.2 := by
  obtain ⟨endpoint, member, has⟩ := List.mem_filterMap.1 (List.mem_of_getLast? last)
  obtain ⟨kind, leads, rfl⟩ := Option.map_eq_some_iff.1 has
  exact ⟨member, Endpoint.path_of_kindAt? leads⟩

namespace EndpointTable

theorem get?_addPaths (paths : NameMap (Endpoint × RouteKind)) (endpoint : Endpoint) (path : String) :
    (addPaths paths endpoint).get? path =
      ((endpoint.kindAt? path).map fun kind => (endpoint, kind)).or (paths.get? path) := by
  have apart : endpoint.rootPath ≠ endpoint.queryPath := rootPath_ne_own_queryPath _
  rw [addPaths, NameMap.get?_insert, NameMap.get?_insert, Endpoint.kindAt?]
  by_cases root : path = endpoint.rootPath
  · simp [root, apart]
  · by_cases query : path = endpoint.queryPath
    · simp [query, apart.symm]
    · simp [root, query]

/-- The index agrees with a search from the end of the list. -/
theorem get?_paths (endpoints : List Endpoint) (path : String) :
    (ofEndpoints endpoints).paths.get? path = lastAt? endpoints path := by
  induction endpoints using List.reverseRecOn with
  | nil => rfl
  | append_singleton endpoints endpoint ih =>
      rw [lastAt?_concat, ← ih, ← get?_addPaths, ofEndpoints, List.foldl_append]
      rfl

theorem match?_ofEndpoints {path bare : String} (trims : Trims path bare) (endpoints : List Endpoint) :
    (ofEndpoints endpoints).match? path = lastAt? endpoints bare := by
  rw [match?, trims_iff.1 trims, get?_paths]

theorem path_of_match? {endpoints : List Endpoint} {path : String} {found : Endpoint × RouteKind}
    (matched : (ofEndpoints endpoints).match? path = some found) :
    found.1 ∈ endpoints ∧ ∃ count, path = found.1.path found.2 ++ slashes count := by
  have trims : Trims path (trimPath path) := trims_iff.2 rfl
  rw [match?_ofEndpoints trims] at matched
  obtain ⟨member, bare⟩ := mem_of_lastAt? matched
  obtain ⟨count, split⟩ := trims.split
  exact ⟨member, count, bare ▸ split⟩

section

variable {endpoints : List Endpoint} (valid : ∀ endpoint ∈ endpoints, ValidName endpoint.schema)
  (distinct : (endpoints.map Endpoint.schema).Nodup)

include valid distinct

theorem match?_path {endpoint : Endpoint} (member : endpoint ∈ endpoints) (kind : RouteKind)
    (count : Nat) :
    (ofEndpoints endpoints).match? (endpoint.path kind ++ slashes count) = some (endpoint, kind) := by
  have named : ValidName endpoint.schema := valid endpoint member
  have bare : (ofEndpoints endpoints).match? (endpoint.path kind) = some (endpoint, kind) := by
    cases kind with
    | root => exact (match?_rootPath valid distinct named).2 ⟨member, rfl, rfl⟩
    | query => exact (match?_queryPath valid distinct).2 ⟨member, rfl, rfl⟩
  have own : Trims (endpoint.path kind) (endpoint.path kind) := by
    have trims := endpoint.trims_path named kind 0
    rwa [show slashes 0 = "" from rfl, String.append_empty] at trims
  rw [match?_ofEndpoints own] at bare
  rw [match?_ofEndpoints (endpoint.trims_path named kind count), bare]

theorem nodup_paths :
    (endpoints.flatMap fun endpoint => [endpoint.rootPath, endpoint.queryPath]).Nodup := by
  rw [List.nodup_flatMap]
  constructor
  · intro endpoint member
    simp [Endpoint.rootPath, Endpoint.queryPath, rootPath_ne_own_queryPath]
  · rw [List.Nodup, List.pairwise_map] at distinct
    refine distinct.imp_of_mem ?_
    intro one two oneMember twoMember different path first second
    simp only [List.mem_cons, List.not_mem_nil, or_false] at first second
    rcases first with rfl | rfl
    · rcases second with same | same
      · exact different (rootPath_inj same)
      · exact rootPath_ne_queryPath (valid one oneMember) same
    · rcases second with same | same
      · exact rootPath_ne_queryPath (valid two twoMember) same.symm
      · exact different (queryPath_inj same)

end

end EndpointTable

theorem Http.respond_listing {table : EndpointTable} {request : Http.Request}
    (get : request.method = "GET") (root : request.parsedTarget.path = "/") :
    Http.respond table request =
      { Http.Response.json 200 (Http.listing table) with requestId := request.id } := by
  have answered : Http.answer table request = .json 200 (Http.listing table) := by
    simp [Http.answer, get, root]
  have body : request.method ≠ "HEAD" := by
    rw [get]
    decide
  rw [Http.respond, answered, if_neg body]

/-- After any updates of the endpoints, a request path leads to the last endpoint of the last update
that has the path without the slashes at its end, as its root or as its query path. If the names of
those endpoints are valid and differ, no two of them share a path, each is found under the two paths
that it is listed with, and nothing is found under other paths. -/
theorem found_after_updates (gateway : Gateway) (updates : List (List Endpoint)) (last : List Endpoint) :
    let current := (updates ++ [last]).foldl (fun gateway endpoints => gateway.replaceEndpoints endpoints)
      gateway
    (∀ path, ∃! bare, Trims path bare) ∧
    (∀ path bare, Trims path bare → current.table.match? path = lastAt? last bare) ∧
    (∀ request : Http.Request, request.method = "GET" → request.parsedTarget.path = "/" →
      current.respond request =
        { Http.Response.json 200 (.array (last.map fun endpoint => .object
            [("schema", .text endpoint.schema), ("root_path", .text (endpoint.path .root)),
              ("query_path", .text (endpoint.path .query))])) with requestId := request.id }) ∧
    ((∀ endpoint ∈ last, ValidName endpoint.schema) → (last.map Endpoint.schema).Nodup →
      (last.flatMap fun endpoint => [endpoint.path .root, endpoint.path .query]).Nodup ∧
      (∀ endpoint ∈ last, ∀ kind count,
        current.table.match? (endpoint.path kind ++ slashes count) = some (endpoint, kind)) ∧
      ∀ path found, current.table.match? path = some found →
        found.1 ∈ last ∧ ∃ count, path = found.1.path found.2 ++ slashes count) := by
  intro current
  have table : current.table = .ofEndpoints last := by
    simp only [current, List.foldl_append, List.foldl_cons, List.foldl_nil, Gateway.replaceEndpoints]
  refine ⟨?_, ?_, ?_, ?_⟩
  · intro path
    refine ⟨EndpointTable.trimPath path, trims_iff.2 rfl, ?_⟩
    intro bare trims
    exact (trims_iff.1 trims).symm
  · intro path bare trims
    rw [table, EndpointTable.match?_ofEndpoints trims]
  · intro request get root
    rw [Gateway.respond, table, Http.respond_listing get root]
    rfl
  · intro valid distinct
    rw [table]
    refine ⟨EndpointTable.nodup_paths valid distinct, ?_, ?_⟩
    · intro endpoint member kind count
      exact EndpointTable.match?_path valid distinct member kind count
    · intro path found matched
      exact EndpointTable.path_of_match? matched

def blankEndpoint (name : String) : Endpoint where
  schema := name
  types := ⟨"Query", none, none, [], ∅⟩
  resolvers := ∅

def blankGateway : Gateway where
  backend := .memory {}
  proxy := ⟨{ scheme := "http", host := some (.domain "proxy"), path := .segments [""] }⟩
  operator := { virtualService := "gateway", role := "router", path := ["routes.json"] }

/-- A name that goes on with a slash, which is not valid, takes a path of another endpoint. -/
example : (EndpointTable.ofEndpoints [blankEndpoint "orders", blankEndpoint "orders/query"]).match?
    "/orders/query/" = some (blankEndpoint "orders/query", .root) := by
  decide

theorem orders_found_after_updates :
    let current := [[blankEndpoint "users"], [blankEndpoint "orders", blankEndpoint "orders-query"]].foldl
      (fun gateway endpoints => gateway.replaceEndpoints endpoints) blankGateway
    current.table.match? "/orders/query//" = some (blankEndpoint "orders", .query) ∧
      current.table.match? "/orders-query/" = some (blankEndpoint "orders-query", .root) ∧
      current.table.match? "/users" = none ∧
      (current.respond { method := "GET", target := "/" }).status = 200 := by
  intro current
  obtain ⟨-, searched, listed, hence⟩ := found_after_updates blankGateway [[blankEndpoint "users"]]
    [blankEndpoint "orders", blankEndpoint "orders-query"]
  obtain ⟨-, found, -⟩ := hence (by decide) (by decide)
  have bare : Trims "/users" "/users" := trims_iff.2 (by decide)
  refine ⟨?_, ?_, ?_, ?_⟩
  · exact found (blankEndpoint "orders") (by decide) .query 2
  · exact found (blankEndpoint "orders-query") (by decide) .root 1
  · exact (searched "/users" "/users" bare).trans (by decide)
  · exact congrArg Http.Response.status (listed { method := "GET", target := "/" } rfl (by decide))

end GatewayControl
