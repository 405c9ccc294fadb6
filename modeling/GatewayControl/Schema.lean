import GatewayControl.Status

/-!
Schemas as operators submit them.
-/

namespace GatewayControl

structure Schema where
  /-- Unique among schemas; also the path under which the schema is served. -/
  name : String
  /-- The name of the resolver map that implements the schema, or empty to ask for a generated one. -/
  resolverMap : String := ""
  /-- The source of the schema document. -/
  source : String := ""
  version : Nat := 0
  status : Status := {}
deriving DecidableEq, Repr

namespace Schema

def toToml (schema : Schema) : Except Toml.WriteFault Toml.Table := do
  return [
    ("name", .text schema.name),
    ("resolver_map", .text schema.resolverMap),
    ("inline_schema", .text schema.source),
    ("resource_version", ← Toml.Value.ofNat schema.version),
    ("status", .table schema.status.toToml)]

def ofToml? (record : Toml.Value) : Option Schema := do
  let name ← record.required 0 "name" Toml.Value.text?
  let resolverMap ← record.memberOr "" 1 "resolver_map" Toml.Value.text?
  let source ← record.memberOr "" 2 "inline_schema" Toml.Value.text?
  let version ← record.memberOr 0 3 "resource_version" Toml.Value.natural?
  let status ← record.memberOr {} 4 "status" Status.ofToml?
  return { name, resolverMap, source, version, status }

end Schema

end GatewayControl
