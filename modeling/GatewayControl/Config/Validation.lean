import GatewayControl.Config.Basic
import GatewayControl.Net.Address
import GatewayControl.Text.Blank
import GatewayControl.Text.Quoted

/-!
What a configuration must satisfy beyond its form. All faults are found, not only the first.
-/

namespace GatewayControl

inductive ValidationFault
  | invalidAddress (field value : String)
  | zero (field : String)
  | empty (field : String)
deriving DecidableEq, Repr

namespace ValidationFault

def message : ValidationFault → String
  | invalidAddress field value => field ++ ": invalid socket address " ++ Text.quote value
  | zero field => field ++ " must be greater than zero"
  | empty field => field ++ " must not be empty"

def details : ValidationFault → String
  | invalidAddress field value =>
    "InvalidAddress \x7b field: " ++ Text.quote field ++ ", value: " ++ Text.quote value ++ " \x7d"
  | zero field => "Zero \x7b field: " ++ Text.quote field ++ " \x7d"
  | empty field => "Empty \x7b field: " ++ Text.quote field ++ " \x7d"

end ValidationFault

def addressFault (field value : String) : List ValidationFault :=
  if (Net.SocketAddress.parse value).isSome then [] else [.invalidAddress field value]

def zeroFault (field : String) (value : Nat) : List ValidationFault :=
  if value = 0 then [.zero field] else []

def blankFault (field value : String) : List ValidationFault :=
  if (Text.trim value.toList).isEmpty then [.empty field] else []

namespace Config

def faults (config : Config) : List ValidationFault :=
  addressFault "server.bind_address" config.server.bindAddress ++
  (if config.observability.metricsEnabled then
    addressFault "observability.metrics_address" config.observability.metricsAddress
  else []) ++
  zeroFault "server.request_timeout_secs" config.server.requestTimeoutSeconds ++
  zeroFault "storage.poll_interval_secs" config.storage.pollIntervalSeconds ++
  zeroFault "reconcile.error_queue_capacity" config.reconcile.errorQueueCapacity ++
  blankFault "proxy.address" config.proxy.address ++
  blankFault "proxy.virtual_service" config.proxy.virtualService ++
  (if config.storage.root = "" then [.empty "storage.root"] else [])

end Config

end GatewayControl
