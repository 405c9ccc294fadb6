import GatewayControl.Resolver

/-!
Endpoints: type systems with their resolvers, served under paths made of the schema's name.
-/

namespace GatewayControl

structure Endpoint where
  schema : String
  types : GraphQL.TypeSystem
  resolvers : Resolvers
deriving DecidableEq

namespace Endpoint

def rootPath (endpoint : Endpoint) : String := GatewayControl.rootPath endpoint.schema

def queryPath (endpoint : Endpoint) : String := GatewayControl.queryPath endpoint.schema

end Endpoint

end GatewayControl
