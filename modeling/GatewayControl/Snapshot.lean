import GatewayControl.ResolverMap
import GatewayControl.Schema

/-!
One observation of everything that is stored.
-/

namespace GatewayControl

structure Snapshot where
  schemas : List Schema := []
  maps : List ResolverMap := []
deriving DecidableEq

def Snapshot.map? (snapshot : Snapshot) (name : String) : Option ResolverMap :=
  snapshot.maps.find? fun map => map.name = name

end GatewayControl
