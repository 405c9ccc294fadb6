import GatewayControl.Proofs.Resolvers
import GatewayControl.Routing.RouteTable

/-!
Routes of resolver maps. A map that resolvers are built from has valid names in all its bindings,
since each of its entries is for a field and each field's binding was checked. So its routes can be
registered, and they are the routes to what its resolvers call.
-/

namespace GatewayControl

open GraphQL (TypeSystem)

namespace Route

theorem before_iff {left right : Route} : left.before right = true ↔
    left.pathPrefix < right.pathPrefix ∨ left.pathPrefix = right.pathPrefix ∧
      (left.upstream < right.upstream ∨ left.upstream = right.upstream ∧
        left.function < right.function) := by
  simp [before]

theorem lexicographic_trans {first second third : String} {earlier later whole : Prop}
    (rest : earlier → later → whole) (one : first < second ∨ first = second ∧ earlier)
    (two : second < third ∨ second = third ∧ later) : first < third ∨ first = third ∧ whole := by
  rcases one with less | ⟨rfl, one⟩
  · rcases two with less' | ⟨rfl, -⟩
    · exact .inl (String.lt_trans less less')
    · exact .inl less
  · rcases two with less' | ⟨rfl, two⟩
    · exact .inl less'
    · exact .inr ⟨rfl, rest one two⟩

theorem before_trans {first second third : Route} (one : first.before second = true)
    (two : second.before third = true) : first.before third = true := by
  rw [before_iff] at one two ⊢
  exact lexicographic_trans (lexicographic_trans String.lt_trans) one two

theorem not_before_self (route : Route) : ¬route.before route = true := by
  simp [before_iff]

theorem before_or_eq_or_after (left right : Route) :
    left.before right = true ∨ left = right ∨ right.before left = true := by
  simp only [before_iff]
  rcases NameMap.lt_or_eq_or_gt left.pathPrefix right.pathPrefix with less | paths | greater
  · exact .inl (.inl less)
  · rcases NameMap.lt_or_eq_or_gt left.upstream right.upstream with less | upstreams | greater
    · exact .inl (.inr ⟨paths, .inl less⟩)
    · rcases NameMap.lt_or_eq_or_gt left.function right.function with less | functions | greater
      · exact .inl (.inr ⟨paths, .inr ⟨upstreams, less⟩⟩)
      · obtain ⟨path, upstream, function⟩ := left
        exact .inr (.inl (by simp_all))
      · exact .inr (.inr (.inr ⟨paths.symm, .inr ⟨upstreams.symm, greater⟩⟩))
    · exact .inr (.inr (.inr ⟨paths.symm, .inl greater⟩))
  · exact .inr (.inr (.inl greater))

theorem mem_insert {route other : Route} {routes : List Route} :
    other ∈ route.insert routes ↔ other = route ∨ other ∈ routes := by
  induction routes with
  | nil => simp [insert]
  | cons first rest ih =>
      rw [insert]
      split
      · rename_i same
        simp [same]
      · split
        · exact List.mem_cons
        · simp only [List.mem_cons, ih]
          exact or_left_comm

/-- Whether routes ascend strictly, and so without repetitions. -/
def Ascending (routes : List Route) : Prop :=
  routes.Pairwise fun left right => left.before right = true

theorem Ascending.nodup {routes : List Route} (ascending : Ascending routes) : routes.Nodup := by
  refine List.Pairwise.imp ?_ ascending
  rintro left _ less rfl
  exact not_before_self left less

theorem Ascending.insert {route : Route} {routes : List Route} (ascending : Ascending routes) :
    Ascending (route.insert routes) := by
  induction routes with
  | nil => exact List.pairwise_singleton _ _
  | cons first rest ih =>
      obtain ⟨least, others⟩ := List.pairwise_cons.1 ascending
      rw [Route.insert]
      split
      · exact ascending
      · rename_i different
        split
        · rename_i less
          refine List.pairwise_cons.2 ⟨fun other member => ?_, ascending⟩
          rcases List.mem_cons.1 member with rfl | later
          · exact less
          · exact before_trans less (least other later)
        · rename_i notLess
          refine List.pairwise_cons.2 ⟨fun other member => ?_, ih others⟩
          rcases mem_insert.1 member with rfl | later
          · rcases before_or_eq_or_after other first with less | same | greater
            · exact absurd less notLess
            · exact absurd same different
            · exact greater
          · exact least other later

theorem mem_foldl_insert {route : Route} {routes more : List Route} :
    route ∈ more.foldl (fun routes route => route.insert routes) routes ↔
      route ∈ more ∨ route ∈ routes := by
  induction more generalizing routes with
  | nil => simp
  | cons first more ih =>
      rw [List.foldl_cons, ih, mem_insert, List.mem_cons]
      exact or_left_comm.trans or_assoc.symm

theorem Ascending.foldl_insert {routes : List Route} (more : List Route)
    (ascending : Ascending routes) :
    Ascending (more.foldl (fun routes route => route.insert routes) routes) := by
  induction more generalizing routes with
  | nil => exact ascending
  | cons first more ih => exact ih ascending.insert

end Route

/-! What resolvers call, and the routes to it. -/

def UpstreamCall.route (call : UpstreamCall) : Route where
  pathPrefix := "/" ++ call.upstream ++ "/" ++ call.function
  upstream := call.upstream
  function := call.function

/-- Whether one of the resolvers calls what a route leads to. -/
def Resolvers.Calls (resolvers : Resolvers) (route : Route) : Prop :=
  ∃ coordinate call, resolvers.get? coordinate = some (.upstream call) ∧ route = call.route

theorem ResolverMap.mem_upstreamBindings {map : ResolverMap} {binding : UpstreamBinding} :
    binding ∈ map.upstreamBindings ↔ ∃ coordinate : Coordinate, ∃ entry,
      map.field? coordinate.type coordinate.field = some entry ∧
        entry.binding = some (.upstream binding) := by
  simp only [upstreamBindings, List.mem_flatMap, List.mem_filterMap, NameMap.mem_values]
  constructor
  · rintro ⟨type, ⟨name, found⟩, entry, ⟨field, stands⟩, bound⟩
    refine ⟨⟨name, field⟩, entry, by simp [field?, found, stands], ?_⟩
    split at bound
    · cases bound
      assumption
    · cases bound
  · rintro ⟨⟨name, field⟩, entry, found, bound⟩
    simp only [field?, Option.bind_eq_bind, Option.bind_eq_some_iff] at found
    obtain ⟨type, found, stands⟩ := found
    exact ⟨type, ⟨name, found⟩, entry, ⟨field, stands⟩, by simp [bound]⟩

theorem UpstreamBinding.nameFault_eq_none_iff {binding : UpstreamBinding} :
    binding.nameFault = none ↔ ValidName binding.upstream ∧ ValidName binding.function := by
  rw [UpstreamBinding.nameFault, ValidName, ValidName]
  cases GatewayControl.nameFault binding.upstream with
  | some fault => simp
  | none => simp

section

variable {proxy : Proxy} {system : TypeSystem} {map : ResolverMap} {resolvers : Resolvers}
  {coordinate : Coordinate}

theorem upstreamCall_ok [DomainToAscii] {binding : UpstreamBinding} {call : UpstreamCall}
    (made : proxy.upstreamCall coordinate binding = .ok call) :
    ValidName binding.upstream ∧ ValidName binding.function ∧
      call.route = Route.ofBinding binding := by
  rw [Proxy.upstreamCall] at made
  cases named : binding.nameFault with
  | some reason =>
      rw [named] at made
      cases made
  | none =>
      obtain ⟨upstream, function⟩ := UpstreamBinding.nameFault_eq_none_iff.1 named
      refine ⟨upstream, function, ?_⟩
      rw [named] at made
      simp only [bind, Except.bind, pure, Except.pure] at made
      split at made
      · cases made
      · split at made
        · cases made
        · split at made
          · cases made
          · cases made
            rfl

theorem resolver_eq_upstream_iff [DomainToAscii] {call : UpstreamCall} :
    proxy.resolver map coordinate = .ok (.upstream call) ↔ ∃ entry binding,
      map.field? coordinate.type coordinate.field = some entry ∧
        entry.binding = some (.upstream binding) ∧
        proxy.upstreamCall coordinate binding = .ok call := by
  rw [Proxy.resolver]
  cases map.field? coordinate.type coordinate.field with
  | none => simp
  | some entry =>
      cases bound : entry.binding with
      | none => simp [bound]
      | some binding =>
          cases binding with
          | template source =>
              cases read : parseTemplate coordinate source <;> simp [bound, read, Functor.map, Except.map]
          | upstream binding =>
              cases made : proxy.upstreamCall coordinate binding <;> simp [bound, made, Functor.map, Except.map]

theorem ResolverMap.Fits.mem_coordinates (fits : map.Fits system) {entry : FieldEntry}
    (found : map.field? coordinate.type coordinate.field = some entry) :
    coordinate ∈ system.coordinates := by
  simp only [ResolverMap.field?, Option.bind_eq_bind, Option.bind_eq_some_iff] at found
  obtain ⟨type, placed, stands⟩ := found
  obtain ⟨object, known, has⟩ := fits _ type placed
  obtain ⟨declared, named⟩ := TypeSystem.mem_of_object? known
  exact TypeSystem.mem_coordinates.2 ⟨object, declared, named,
    List.mem_map.1 (GraphQL.ObjectType.field?_isSome_iff.1
      (has _ (NameMap.mem_names.2 ⟨entry, stands⟩)))⟩

theorem call_of_binding [DomainToAscii] (built : proxy.build system map = .ok resolvers)
    {binding : UpstreamBinding} (bound : binding ∈ map.upstreamBindings) :
    ∃ coordinate call, resolvers.get? coordinate = some (.upstream call) ∧
      proxy.upstreamCall coordinate binding = .ok call := by
  obtain ⟨coordinate, entry, found, upstream⟩ := ResolverMap.mem_upstreamBindings.1 bound
  obtain ⟨fits, resolved⟩ := build_isOk_iff.1 ⟨resolvers, built⟩
  have member := fits.mem_coordinates found
  obtain ⟨resolver, made⟩ := resolved coordinate member
  cases called : proxy.upstreamCall coordinate binding with
  | error fault =>
      rw [Proxy.resolver, found] at made
      simp only [upstream, called] at made
      cases made
  | ok call =>
      have own := resolver_eq_upstream_iff.2 ⟨entry, binding, found, upstream, called⟩
      exact ⟨coordinate, call, (get?_build built).2 ⟨member, own⟩, called⟩

theorem routesOf_built [DomainToAscii] (built : proxy.build system map = .ok resolvers) :
    ∃ routes, RouteOperator.routesOf map = .ok routes ∧
      ∀ route, route ∈ routes ↔ resolvers.Calls route := by
  refine ⟨map.upstreamBindings.map Route.ofBinding, mapM_ok fun binding bound => ?_, fun route => ?_⟩
  · obtain ⟨coordinate, call, -, made⟩ := call_of_binding built bound
    obtain ⟨upstream, function, -⟩ := upstreamCall_ok made
    rw [ValidName] at upstream function
    simp only [upstream, function, Option.or_none]
  · rw [List.mem_map]
    constructor
    · rintro ⟨binding, bound, rfl⟩
      obtain ⟨coordinate, call, calls, made⟩ := call_of_binding built bound
      exact ⟨coordinate, call, calls, (upstreamCall_ok made).2.2.symm⟩
    · rintro ⟨coordinate, call, calls, rfl⟩
      obtain ⟨-, resolved⟩ := (get?_build built).1 calls
      obtain ⟨entry, binding, found, upstream, made⟩ := resolver_eq_upstream_iff.1 resolved
      exact ⟨binding, ResolverMap.mem_upstreamBindings.2 ⟨coordinate, entry, found, upstream⟩,
        (upstreamCall_ok made).2.2.symm⟩

end

end GatewayControl
