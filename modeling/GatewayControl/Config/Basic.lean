import GatewayControl.Toml.Record

/-!
The configuration of the control plane. Every part and every field has a default.
-/

namespace GatewayControl

structure ServerConfig where
  bindAddress : String := "0.0.0.0:8080"
  requestTimeoutSeconds : Nat := 30
deriving DecidableEq, Repr

structure ProxyConfig where
  /-- Where calls of upstreams are sent. -/
  address : String := "127.0.0.1:8081"
  virtualService : String := "schemagate"
  role : String := "gateway-proxy"
  routeTablePath : String := "routes.toml"
deriving DecidableEq, Repr

structure StorageConfig where
  /-- The directory that holds the stored objects. -/
  root : String := "config"
  pollIntervalSeconds : Nat := 2
deriving DecidableEq, Repr

structure ReconcileConfig where
  errorQueueCapacity : Nat := 64
deriving DecidableEq, Repr

structure ObservabilityConfig where
  logLevel : String := "info"
  metricsEnabled : Bool := true
  metricsAddress : String := "0.0.0.0:9090"
deriving DecidableEq, Repr

structure Config where
  server : ServerConfig := {}
  proxy : ProxyConfig := {}
  storage : StorageConfig := {}
  reconcile : ReconcileConfig := {}
  observability : ObservabilityConfig := {}
deriving DecidableEq, Repr

def ServerConfig.ofToml? (record : Toml.Value) : Option ServerConfig := do
  let default : ServerConfig := {}
  return {
    bindAddress := ← record.memberOr default.bindAddress 0 "bind_address" Toml.Value.text?
    requestTimeoutSeconds :=
      ← record.memberOr default.requestTimeoutSeconds 1 "request_timeout_secs" Toml.Value.natural? }

def ProxyConfig.ofToml? (record : Toml.Value) : Option ProxyConfig := do
  let default : ProxyConfig := {}
  return {
    address := ← record.memberOr default.address 0 "address" Toml.Value.text?
    virtualService := ← record.memberOr default.virtualService 1 "virtual_service" Toml.Value.text?
    role := ← record.memberOr default.role 2 "role" Toml.Value.text?
    routeTablePath :=
      ← record.memberOr default.routeTablePath 3 "route_table_path" Toml.Value.text? }

def StorageConfig.ofToml? (record : Toml.Value) : Option StorageConfig := do
  let default : StorageConfig := {}
  return {
    root := ← record.memberOr default.root 0 "root" Toml.Value.text?
    pollIntervalSeconds :=
      ← record.memberOr default.pollIntervalSeconds 1 "poll_interval_secs" Toml.Value.natural? }

def ReconcileConfig.ofToml? (record : Toml.Value) : Option ReconcileConfig := do
  let default : ReconcileConfig := {}
  return {
    errorQueueCapacity :=
      ← record.memberOr default.errorQueueCapacity 0 "error_queue_capacity" Toml.Value.natural? }

def ObservabilityConfig.ofToml? (record : Toml.Value) : Option ObservabilityConfig := do
  let default : ObservabilityConfig := {}
  return {
    logLevel := ← record.memberOr default.logLevel 0 "log_level" Toml.Value.text?
    metricsEnabled := ← record.memberOr default.metricsEnabled 1 "metrics_enabled" Toml.Value.boolean?
    metricsAddress := ← record.memberOr default.metricsAddress 2 "metrics_address" Toml.Value.text? }

namespace Config

def ofToml? (record : Toml.Value) : Option Config := do
  let server ← record.memberOr {} 0 "server" ServerConfig.ofToml?
  let proxy ← record.memberOr {} 1 "proxy" ProxyConfig.ofToml?
  let storage ← record.memberOr {} 2 "storage" StorageConfig.ofToml?
  let reconcile ← record.memberOr {} 3 "reconcile" ReconcileConfig.ofToml?
  let observability ← record.memberOr {} 4 "observability" ObservabilityConfig.ofToml?
  return { server, proxy, storage, reconcile, observability }

def toToml (config : Config) : Except Toml.WriteFault Toml.Table := do
  return [
    ("server", .table [
      ("bind_address", .text config.server.bindAddress),
      ("request_timeout_secs", ← Toml.Value.ofNat config.server.requestTimeoutSeconds)]),
    ("proxy", .table [
      ("address", .text config.proxy.address),
      ("virtual_service", .text config.proxy.virtualService),
      ("role", .text config.proxy.role),
      ("route_table_path", .text config.proxy.routeTablePath)]),
    ("storage", .table [
      ("root", .text config.storage.root),
      ("poll_interval_secs", ← Toml.Value.ofNat config.storage.pollIntervalSeconds)]),
    ("reconcile", .table [
      ("error_queue_capacity", ← Toml.Value.ofNat config.reconcile.errorQueueCapacity)]),
    ("observability", .table [
      ("log_level", .text config.observability.logLevel),
      ("metrics_enabled", .boolean config.observability.metricsEnabled),
      ("metrics_address", .text config.observability.metricsAddress)])]

def parse (content : String) : Option Config :=
  Toml.read content >>= fun table => ofToml? (.table table)

end Config

end GatewayControl
