import GatewayControl.NameMap
import GatewayControl.Status

/-!
Resolver maps: for fields of object types, how the field is resolved. An entry without a binding is
a placeholder, as generated maps have them.
-/

namespace GatewayControl

structure UpstreamBinding where
  upstream : String
  function : String
  requestTemplate : Option String := none
  responseTemplate : Option String := none
deriving DecidableEq, Repr

inductive Binding
  | upstream (binding : UpstreamBinding)
  | template (source : String)
deriving DecidableEq, Repr

structure FieldEntry where
  binding : Option Binding := none
deriving DecidableEq, Repr

structure TypeEntry where
  fields : NameMap FieldEntry := ∅
deriving DecidableEq

instance : Inhabited TypeEntry := ⟨{}⟩

structure ResolverMap where
  name : String
  types : NameMap TypeEntry := ∅
  version : Nat := 0
  status : Status := {}
deriving DecidableEq

namespace ResolverMap

def withField (map : ResolverMap) (type field : String) (binding : Option Binding) : ResolverMap :=
  let entry := (map.types.get? type).getD {}
  { map with types := map.types.insert type ⟨entry.fields.insert field ⟨binding⟩⟩ }

def field? (map : ResolverMap) (type field : String) : Option FieldEntry := do
  (← map.types.get? type).fields.get? field

def upstreamBindings (map : ResolverMap) : List UpstreamBinding :=
  map.types.values.flatMap fun type =>
    type.fields.values.filterMap fun entry =>
      match entry.binding with
      | some (.upstream binding) => some binding
      | _ => none

end ResolverMap

def optionalText (name : String) (value : Option String) : Toml.Table :=
  (value.map fun value => (name, Toml.Value.text value)).toList

def UpstreamBinding.toToml (binding : UpstreamBinding) : Toml.Table :=
  [("upstream", .text binding.upstream), ("function", .text binding.function)] ++
    optionalText "request_template" binding.requestTemplate ++
    optionalText "response_template" binding.responseTemplate

def UpstreamBinding.ofToml? (record : Toml.Value) : Option UpstreamBinding := do
  let upstream ← record.required 0 "upstream" Toml.Value.text?
  let function ← record.required 1 "function" Toml.Value.text?
  let requestTemplate ← record.member? 2 "request_template" Toml.Value.text?
  let responseTemplate ← record.member? 3 "response_template" Toml.Value.text?
  return { upstream, function, requestTemplate, responseTemplate }

def Binding.toToml : Binding → Toml.Table
  | upstream binding => [("upstream", .table binding.toToml)]
  | template source => [("template", .table [("inline", .text source)])]

def Binding.ofToml? (value : Toml.Value) : Option Binding := do
  let (name, contents) ← value.caseWith?
  match name with
  | "upstream" => return .upstream (← UpstreamBinding.ofToml? contents)
  | "template" =>
    guard (contents.hasOnly ["inline"])
    return .template (← contents.required 0 "inline" Toml.Value.text?)
  | _ => none

def FieldEntry.toToml (entry : FieldEntry) : Toml.Table :=
  (entry.binding.map fun binding => ("resolver", Toml.Value.table binding.toToml)).toList

def FieldEntry.ofToml? (record : Toml.Value) : Option FieldEntry := do
  return ⟨← record.member? 0 "resolver" Binding.ofToml?⟩

def tableOfMap (write : α → Toml.Table) (map : NameMap α) : Toml.Table :=
  map.toList.map fun (name, value) => (name, .table (write value))

def mapOfTable? (read : Toml.Value → Option α) (value : Toml.Value) : Option (NameMap α) := do
  let entries ← (← value.table?).mapM fun (name, value) => do return (name, ← read value)
  return NameMap.ofList entries

def TypeEntry.toToml (entry : TypeEntry) : Toml.Table :=
  [("fields", .table (tableOfMap FieldEntry.toToml entry.fields))]

def TypeEntry.ofToml? (record : Toml.Value) : Option TypeEntry := do
  return ⟨← record.memberOr ∅ 0 "fields" (mapOfTable? FieldEntry.ofToml?)⟩

namespace ResolverMap

def toToml (map : ResolverMap) : Except Toml.WriteFault Toml.Table := do
  return [
    ("name", .text map.name),
    ("types", .table (tableOfMap TypeEntry.toToml map.types)),
    ("resource_version", ← Toml.Value.ofNat map.version),
    ("status", .table map.status.toToml)]

def ofToml? (record : Toml.Value) : Option ResolverMap := do
  let name ← record.required 0 "name" Toml.Value.text?
  let types ← record.memberOr ∅ 1 "types" (mapOfTable? TypeEntry.ofToml?)
  let version ← record.memberOr 0 2 "resource_version" Toml.Value.natural?
  let status ← record.memberOr {} 3 "status" Status.ofToml?
  return { name, types, version, status }

end ResolverMap

end GatewayControl
