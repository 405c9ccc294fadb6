import GatewayControl.ControlPlane

/-!
The command line: where the configuration is, and what overrides it. An option takes one value,
after an equals sign or as the next argument, and can be given once. A configuration file is checked
before anything overrides it, and again afterwards.
-/

namespace GatewayControl

structure Options where
  config : Option String := none
  storageRoot : Option String := none
  bind : Option String := none
deriving DecidableEq, Repr

inductive OptionName
  | config
  | storageRoot
  | bind
deriving DecidableEq, Repr

def OptionName.word : OptionName → String
  | config => "config"
  | storageRoot => "storage-root"
  | bind => "bind"

def OptionName.isPath : OptionName → Bool
  | config | storageRoot => true
  | bind => false

inductive UsageFault
  | unexpected (argument : String)
  | missingValue (option : OptionName)
  | repeated (option : OptionName)
deriving DecidableEq, Repr

def UsageFault.message : UsageFault → String
  | unexpected argument => "unexpected argument '" ++ argument ++ "' found"
  | missingValue option => "a value is required for '--" ++ option.word ++ "'"
  | repeated option => "the argument '--" ++ option.word ++ "' cannot be used multiple times"

inductive Invocation
  | run (options : Options)
  | help
deriving DecidableEq, Repr

namespace Options

def value? (options : Options) : OptionName → Option String
  | .config => options.config
  | .storageRoot => options.storageRoot
  | .bind => options.bind

def set (options : Options) (name : OptionName) (value : String) : Except UsageFault Options :=
  if (options.value? name).isSome then .error (.repeated name)
  else if name.isPath && value = "" then .error (.missingValue name)
  else
    match name with
    | .config => .ok { options with config := some value }
    | .storageRoot => .ok { options with storageRoot := some value }
    | .bind => .ok { options with bind := some value }

end Options

inductive Argument
  /-- An option, with its value if the value is part of the argument. -/
  | option (name : OptionName) (value : Option String)
  | help
  /-- All arguments after this one are no options. -/
  | endOfOptions
  | other
deriving DecidableEq, Repr

namespace Argument

def ofLong (name : List Char) (value : Option String) : Argument :=
  match String.ofList name, value with
  | "config", value => .option .config value
  | "storage-root", value => .option .storageRoot value
  | "bind", value => .option .bind value
  | "help", none => .help
  | _, _ => .other

/-- The value that is written right after a short option. -/
def attached : List Char → Option String
  | [] => none
  | '=' :: value | value => some (String.ofList value)

def ofText (text : String) : Argument :=
  match text.toList with
  | ['-', '-'] => .endOfOptions
  | '-' :: '-' :: long =>
    match Text.breakAt (· = '=') long with
    | some (name, _, value) => ofLong name (some (String.ofList value))
    | none => ofLong long none
  | '-' :: 'c' :: value => .option .config (attached value)
  | '-' :: 'b' :: value => .option .bind (attached value)
  | '-' :: 'h' :: _ => .help
  | _ => .other

def isValue (text : String) : Bool := text = "-" || text.toList.head? ≠ some '-'

end Argument

namespace Invocation

/-- Reads arguments from left to right; the first that asks for help or is wrong decides. -/
def parseFrom (options : Options) : List String → Except UsageFault Invocation
  | [] => .ok (.run options)
  | argument :: rest =>
    match Argument.ofText argument with
    | .help => .ok .help
    | .other => .error (.unexpected argument)
    | .endOfOptions =>
      match rest with
      | [] => .ok (.run options)
      | next :: _ => .error (.unexpected next)
    | .option name (some value) => do parseFrom (← options.set name value) rest
    | .option name none =>
      match rest with
      | [] => .error (.missingValue name)
      | value :: rest =>
        if Argument.isValue value then do parseFrom (← options.set name value) rest
        else .error (.missingValue name)

def parse (arguments : List String) : Except UsageFault Invocation := parseFrom {} arguments

end Invocation

namespace Options

def override (options : Options) (config : Config) : Config :=
  { config with
    storage.root := options.storageRoot.getD config.storage.root
    server.bindAddress := options.bind.getD config.server.bindAddress }

def resolve (options : Options) (directory : Path) : DiskProgram (Except ConfigFault Config) :=
  match options.config with
  | none => .done (options.override {}).validated
  | some path =>
    (Config.load (directory.within path)).bind fun
      | .error fault => .done (.error fault)
      | .ok config => .done (options.override config).validated

end Options

inductive LaunchFault
  | config (fault : ConfigFault)
  | bind (address : String)
  | startup (fault : StartupFault)
deriving DecidableEq, Repr

def LaunchFault.message : LaunchFault → String
  | config fault => fault.message
  | bind address => "cannot listen on " ++ address
  | startup fault => fault.message

def launch (canListen : String → Bool) (directory : Path) (options : Options) :
    DiskProgram (Except LaunchFault ControlPlane) :=
  (options.resolve directory).bind fun
    | .error fault => .done (.error (.config fault))
    | .ok config =>
      if canListen config.server.bindAddress then
        (ControlPlane.setup directory config).bind fun
          | .error fault => .done (.error (.startup fault))
          | .ok plane => .done (.ok plane)
      else .done (.error (.bind config.server.bindAddress))

end GatewayControl
