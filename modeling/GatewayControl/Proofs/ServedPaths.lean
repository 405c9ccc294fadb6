import GatewayControl.Proofs.Catalog
import GatewayControl.Proofs.Names
import GatewayControl.Routing.EndpointTable
import Mathlib.Data.List.Nodup

/-!
Request paths of endpoints. Valid names hold no slash, so the paths of endpoints with different
valid names are all different, and each of them leads to its own endpoint.
-/

namespace GatewayControl

section

variable {name other : String}

theorem ValidName.slash_not_mem (valid : ValidName name) : '/' ∉ name.toList := by
  intro member
  have good := (validName_iff.1 valid).2.1 '/' member
  exact absurd good (by decide)

theorem rootPath_inj (same : rootPath name = rootPath other) : name = other := by
  have lists := congrArg String.toList same
  rw [rootPath, rootPath, String.toList_append, String.toList_append] at lists
  exact String.ext (List.append_cancel_left lists)

theorem queryPath_inj (same : queryPath name = queryPath other) : name = other := by
  have lists := congrArg String.toList same
  simp only [queryPath, String.toList_append, List.append_assoc] at lists
  exact String.ext (List.append_cancel_right (List.append_cancel_left lists))

theorem rootPath_ne_queryPath (valid : ValidName name) : rootPath name ≠ queryPath other := by
  intro same
  have lists := congrArg String.toList same
  simp only [rootPath, queryPath, String.toList_append, List.append_assoc] at lists
  have own := List.append_cancel_left lists
  refine valid.slash_not_mem ?_
  rw [own]
  exact List.mem_append_right _ (by decide)

end

namespace EndpointTable

theorem trimPath_of_last {path : String} {front : List Char} {last : Char}
    (split : path.toList = front ++ [last]) (different : last ≠ '/') : trimPath path = path := by
  rw [trimPath]
  split
  · rw [Text.dropEndWhile, split, List.reverse_append, List.reverse_singleton, List.singleton_append,
      List.dropWhile_cons_of_neg (by simpa using different), List.reverse_cons, List.reverse_reverse,
      ← split, String.ofList_toList]
  · rfl

theorem trimPath_rootPath {name : String} (valid : ValidName name) :
    trimPath (rootPath name) = rootPath name := by
  have nonempty : name.toList ≠ [] := fun empty =>
    (validName_iff.1 valid).1 (String.toList_eq_nil_iff.1 empty)
  obtain ⟨front, last, split⟩ := List.eq_nil_or_concat name.toList |>.resolve_left nonempty
  rw [List.concat_eq_append] at split
  have whole : (rootPath name).toList = ('/' :: front) ++ [last] := by
    rw [rootPath, String.toList_append, split]
    rfl
  refine trimPath_of_last whole ?_
  rintro rfl
  exact valid.slash_not_mem (split ▸ List.mem_append_right front List.mem_cons_self)

theorem trimPath_queryPath (name : String) : trimPath (queryPath name) = queryPath name := by
  have ends : "/query".toList = "/quer".toList ++ ['y'] := by decide
  have split : (queryPath name).toList = ("/".toList ++ name.toList ++ "/quer".toList) ++ ['y'] := by
    rw [queryPath, String.toList_append, String.toList_append, ends]
    simp only [List.append_assoc]
  exact trimPath_of_last split (by decide)

def routesOf (endpoint : Endpoint) : List (String × (Endpoint × RouteKind)) :=
  [(endpoint.rootPath, (endpoint, .root)), (endpoint.queryPath, (endpoint, .query))]

theorem paths_ofEndpoints (endpoints : List Endpoint) :
    (ofEndpoints endpoints).paths = NameMap.ofList (endpoints.flatMap routesOf) := by
  have folded : ∀ paths : NameMap (Endpoint × RouteKind), endpoints.foldl addPaths paths =
      (endpoints.flatMap routesOf).foldl (fun map entry => map.insert entry.1 entry.2) paths := by
    induction endpoints with
    | nil => exact fun _ => rfl
    | cons endpoint endpoints ih =>
        intro paths
        rw [List.foldl_cons, ih, List.flatMap_cons, List.foldl_append]
        rfl
  exact folded ∅

section

variable {endpoints : List Endpoint} (valid : ∀ endpoint ∈ endpoints, ValidName endpoint.schema)
  (distinct : (endpoints.map Endpoint.schema).Nodup)

include valid distinct

theorem paths_single :
    ∀ path found other, (path, found) ∈ endpoints.flatMap routesOf →
      (path, other) ∈ endpoints.flatMap routesOf → found = other := by
  intro path found other first second
  obtain ⟨one, oneMember, oneRoute⟩ := List.mem_flatMap.1 first
  obtain ⟨two, twoMember, twoRoute⟩ := List.mem_flatMap.1 second
  have same : one.schema = two.schema → one = two := fun named =>
    List.inj_on_of_nodup_map distinct oneMember twoMember named
  simp only [routesOf, List.mem_cons, List.not_mem_nil, or_false, Prod.mk.injEq] at oneRoute twoRoute
  rcases oneRoute with ⟨rfl, rfl⟩ | ⟨rfl, rfl⟩
  · rcases twoRoute with ⟨path, rfl⟩ | ⟨path, rfl⟩
    · rw [same (rootPath_inj path)]
    · exact absurd path (rootPath_ne_queryPath (valid one oneMember))
  · rcases twoRoute with ⟨path, rfl⟩ | ⟨path, rfl⟩
    · exact absurd path.symm (rootPath_ne_queryPath (valid two twoMember))
    · rw [same (queryPath_inj path)]

/-- What a path leads to is the endpoint of the name in the path. -/
theorem match?_rootPath {name : String} (named : ValidName name)
    {found : Endpoint × RouteKind} :
    (ofEndpoints endpoints).match? (rootPath name) = some found ↔
      found.1 ∈ endpoints ∧ found.1.schema = name ∧ found.2 = .root := by
  rw [match?, trimPath_rootPath named, paths_ofEndpoints,
    NameMap.get?_ofList_eq_some_iff (paths_single valid distinct), List.mem_flatMap]
  constructor
  · rintro ⟨endpoint, member, route⟩
    simp only [routesOf, List.mem_cons, List.not_mem_nil, or_false, Prod.mk.injEq] at route
    rcases route with ⟨path, rfl⟩ | ⟨path, rfl⟩
    · exact ⟨member, (rootPath_inj path).symm, rfl⟩
    · exact absurd path (rootPath_ne_queryPath named)
  · obtain ⟨endpoint, kind⟩ := found
    rintro ⟨member, rfl, rfl⟩
    exact ⟨endpoint, member, List.mem_cons_self⟩

theorem match?_queryPath {name : String} {found : Endpoint × RouteKind} :
    (ofEndpoints endpoints).match? (queryPath name) = some found ↔
      found.1 ∈ endpoints ∧ found.1.schema = name ∧ found.2 = .query := by
  rw [match?, trimPath_queryPath, paths_ofEndpoints,
    NameMap.get?_ofList_eq_some_iff (paths_single valid distinct), List.mem_flatMap]
  constructor
  · rintro ⟨endpoint, member, route⟩
    simp only [routesOf, List.mem_cons, List.not_mem_nil, or_false, Prod.mk.injEq] at route
    rcases route with ⟨path, rfl⟩ | ⟨path, rfl⟩
    · exact absurd path.symm (rootPath_ne_queryPath (valid endpoint member))
    · exact ⟨member, (queryPath_inj path).symm, rfl⟩
  · obtain ⟨endpoint, kind⟩ := found
    rintro ⟨member, rfl, rfl⟩
    exact ⟨endpoint, member, List.mem_cons_of_mem _ List.mem_cons_self⟩

end

end EndpointTable

end GatewayControl
