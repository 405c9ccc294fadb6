import GatewayControl.Config.Validation
import GatewayControl.Disk.Call

/-!
Loading a configuration from a file.
-/

namespace GatewayControl

inductive ConfigFault
  | io (fault : DiskFault)
  | form
  | validation (faults : List ValidationFault)
deriving DecidableEq, Repr

namespace ConfigFault

def message : ConfigFault → String
  | io fault => "IO error: " ++ fault.message
  | form => "Parse error: " ++ Toml.readErrorMessage
  | validation faults =>
    "Validation failed: " ++ ", ".intercalate (faults.map ValidationFault.message)

def details : ConfigFault → String
  | io fault => "Io(" ++ fault.message ++ ")"
  | form => "Parse(" ++ Toml.readErrorMessage ++ ")"
  | validation faults =>
    "Validation([" ++ ", ".intercalate (faults.map ValidationFault.details) ++ "])"

end ConfigFault

namespace Config

def validated (config : Config) : Except ConfigFault Config :=
  if config.faults.isEmpty then .ok config else .error (.validation config.faults)

def load (path : Path) : DiskProgram (Except ConfigFault Config) :=
  .call (.readText path) fun
    | .error fault => .done (.error (.io fault))
    | .ok content =>
      match parse content with
      | none => .done (.error .form)
      | some config => .done config.validated

end Config

end GatewayControl
