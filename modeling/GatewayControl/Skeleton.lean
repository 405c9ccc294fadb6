import GatewayControl.GraphQL.TypeSystem
import GatewayControl.ResolverMap

/-!
Generated resolver maps: a placeholder for every field of every object type.
-/

namespace GatewayControl

def placeholders (object : GraphQL.ObjectType) : TypeEntry :=
  ⟨NameMap.ofList (object.fields.map fun field => (field.name, {}))⟩

def skeleton (name : String) (system : GraphQL.TypeSystem) : ResolverMap where
  name := name
  types := NameMap.ofList (system.objectTypes.map fun object => (object.name, placeholders object))

end GatewayControl
