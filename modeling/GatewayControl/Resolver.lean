import GatewayControl.GraphQL.TypeSystem
import GatewayControl.Name
import GatewayControl.ResolverMap
import GatewayControl.Template
import GatewayControl.Url.Basic

/-!
Resolvers: what answers the fields of a type system. They are built from a resolver map, which must
have an entry for every field of every object type and for nothing else. A call of an upstream goes
through the proxy, under a path made of the names of the upstream and its function.
-/

namespace GatewayControl

structure Coordinate where
  type : String
  field : String
deriving DecidableEq, Repr

def Coordinate.display (coordinate : Coordinate) : String :=
  coordinate.type ++ "." ++ coordinate.field

inductive BuildFault
  | unknownType (type : String)
  | unknownField (coordinate : Coordinate)
  | missingResolver (coordinate : Coordinate)
  | invalidUpstream (coordinate : Coordinate) (reason : String)
  | invalidTemplate (coordinate : Coordinate) (fault : TemplateFault)
  | invalidProxyAddress (address : String)
deriving DecidableEq, Repr

def BuildFault.message : BuildFault → String
  | unknownType type => "type " ++ type ++ " is not an object type in the schema"
  | unknownField coordinate => "field " ++ coordinate.display ++ " does not exist in the schema"
  | missingResolver coordinate => "no resolver for field " ++ coordinate.display
  | invalidUpstream coordinate reason =>
    "invalid upstream binding for " ++ coordinate.display ++ ": " ++ reason
  | invalidTemplate coordinate fault =>
    "invalid template for " ++ coordinate.display ++ ": " ++ fault.message
  | invalidProxyAddress address => "invalid proxy address " ++ address

structure UpstreamCall where
  upstream : String
  function : String
  url : Url
  requestTemplate : Option Template
  responseTemplate : Option Template
deriving DecidableEq, Repr

inductive Resolver
  | null
  | template (template : Template)
  | upstream (call : UpstreamCall)
deriving DecidableEq, Repr

/-- Where calls of upstreams are sent: a URL with a host and a path that ends in a slash. -/
structure Proxy where
  url : Url
deriving DecidableEq, Repr

/-- The proxy at `host:port` or at a full URL. -/
def Proxy.ofAddress [DomainToAscii] (address : String) : Except BuildFault Proxy :=
  let text :=
    if Text.containsPart "://".toList address.toList then address else "http://" ++ address
  match Url.parse text with
  | .ok url =>
    if url.host.isSome then .ok ⟨url.withTrailingSlash⟩
    else .error (.invalidProxyAddress address)
  | .error _ => .error (.invalidProxyAddress address)

def UpstreamBinding.nameFault (binding : UpstreamBinding) : Option String :=
  match GatewayControl.nameFault binding.upstream with
  | some fault => some ("upstream " ++ fault.message)
  | none => (GatewayControl.nameFault binding.function).map fun fault => "function " ++ fault.message

def parseTemplate (coordinate : Coordinate) (source : String) : Except BuildFault Template :=
  (Template.parse source).mapError (.invalidTemplate coordinate)

def parseOptionalTemplate (coordinate : Coordinate) :
    Option String → Except BuildFault (Option Template)
  | none => .ok none
  | some source => some <$> parseTemplate coordinate source

namespace Proxy

def upstreamCall [DomainToAscii] (proxy : Proxy) (coordinate : Coordinate)
    (binding : UpstreamBinding) : Except BuildFault UpstreamCall := do
  if let some reason := binding.nameFault then throw (.invalidUpstream coordinate reason)
  let url ← (proxy.url.join (binding.upstream ++ "/" ++ binding.function)).mapError fun fault =>
    .invalidUpstream coordinate fault.message
  let requestTemplate ← parseOptionalTemplate coordinate binding.requestTemplate
  let responseTemplate ← parseOptionalTemplate coordinate binding.responseTemplate
  return {
    upstream := binding.upstream
    function := binding.function
    url, requestTemplate, responseTemplate }

def resolver [DomainToAscii] (proxy : Proxy) (map : ResolverMap) (coordinate : Coordinate) :
    Except BuildFault Resolver :=
  match map.field? coordinate.type coordinate.field with
  | none => .error (.missingResolver coordinate)
  | some entry =>
    match entry.binding with
    | none => .ok .null
    | some (.template source) => .template <$> parseTemplate coordinate source
    | some (.upstream binding) => .upstream <$> proxy.upstreamCall coordinate binding

end Proxy

def GraphQL.TypeSystem.coordinates (system : GraphQL.TypeSystem) : List Coordinate :=
  system.objectTypes.flatMap fun object =>
    object.fields.map fun field => ⟨object.name, field.name⟩

/-- An entry for something that the type system does not have. -/
def strayEntry (system : GraphQL.TypeSystem) (type : String) (entry : TypeEntry) :
    Option BuildFault :=
  match system.object? type with
  | none => some (.unknownType type)
  | some object =>
    (entry.fields.names.find? fun field => (object.field? field).isNone).map fun field =>
      .unknownField ⟨type, field⟩

abbrev Resolvers := NameMap (NameMap Resolver)

namespace Resolvers

def insert (resolvers : Resolvers) (coordinate : Coordinate) (resolver : Resolver) : Resolvers :=
  let fields := (resolvers.get? coordinate.type).getD ∅
  NameMap.insert resolvers coordinate.type (fields.insert coordinate.field resolver)

def ofEntries (entries : List (Coordinate × Resolver)) : Resolvers :=
  entries.foldl (fun resolvers entry => insert resolvers entry.1 entry.2) ∅

def get? (resolvers : Resolvers) (coordinate : Coordinate) : Option Resolver := do
  (← NameMap.get? resolvers coordinate.type).get? coordinate.field

def toEntries (resolvers : Resolvers) : List (Coordinate × Resolver) :=
  NameMap.toList resolvers |>.flatMap fun (type, fields) =>
    fields.toList.map fun (field, resolver) => (⟨type, field⟩, resolver)

end Resolvers

def Proxy.build [DomainToAscii] (proxy : Proxy) (system : GraphQL.TypeSystem) (map : ResolverMap) :
    Except BuildFault Resolvers :=
  match map.types.toList.findSome? fun (type, entry) => strayEntry system type entry with
  | some fault => .error fault
  | none => do
    let entries ← system.coordinates.mapM fun coordinate => do
      return (coordinate, ← proxy.resolver map coordinate)
    return Resolvers.ofEntries entries

end GatewayControl
