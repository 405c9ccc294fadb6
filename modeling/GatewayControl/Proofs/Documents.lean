import GatewayControl.Proofs.RouteFiles

/-!
Documents read back. Whatever texts a schema, a resolver map or a route table holds, its document is
read as the value that it was written from. Only a version that is too large has no document.
-/

namespace GatewayControl

namespace FileStore

open StoredObject

variable {α : Type} [StoredObject α] [Documented α] {object : α}

theorem renderDocument_of_large (large : Toml.maxInteger < version object) :
    renderDocument object = .error (.serialization "out-of-range value for u64 type") := by
  rw [renderDocument, Documented.refuses large]
  rfl

theorem renderDocument_of_small (small : version object ≤ Toml.maxInteger) :
    ∃ content, renderDocument object = .ok content := by
  obtain ⟨table, written⟩ := Documented.writes small
  exact ⟨Toml.write table, by rw [renderDocument, written]⟩

theorem read_renderDocument {content : String} (rendered : renderDocument object = .ok content) :
    (Toml.read content >>= fun table => ofToml? (.table table)) = some object := by
  rw [renderDocument] at rendered
  cases written : toToml object with
  | error fault =>
      rw [written] at rendered
      cases rendered
  | ok table =>
      rw [written] at rendered
      cases rendered
      exact Documented.reads_back written

theorem parseDocument_renderDocument {content : String} {path : Path} (stem : path.stem = name object)
    (rendered : renderDocument object = .ok content) : parseDocument path content = .ok object := by
  rw [parseDocument, read_renderDocument rendered]
  exact if_pos stem.symm

theorem renderDocument_reads_back (small : version object ≤ Toml.maxInteger) :
    ∃ content, renderDocument object = .ok content ∧
      (Toml.read content >>= fun table => ofToml? (.table table)) = some object ∧
      ∀ path : Path, path.stem = name object → parseDocument path content = .ok object := by
  obtain ⟨content, rendered⟩ := renderDocument_of_small small
  refine ⟨content, rendered, read_renderDocument rendered, ?_⟩
  intro path stem
  exact parseDocument_renderDocument stem rendered

end FileStore

open FileStore (parseDocument renderDocument)

/-- Schemas and resolver maps have documents up to version `0x7fffffffffffffff`, route tables always do,
and each document is read as the value that it was written from. -/
theorem documents_read_back :
    (∀ schema : Schema, schema.version ≤ Toml.maxInteger →
      ∃ content, renderDocument schema = .ok content ∧
        (Toml.read content >>= fun table => Schema.ofToml? (.table table)) = some schema ∧
        ∀ path : Path, path.stem = schema.name → parseDocument path content = .ok schema) ∧
    (∀ map : ResolverMap, map.version ≤ Toml.maxInteger →
      ∃ content, renderDocument map = .ok content ∧
        (Toml.read content >>= fun table => ResolverMap.ofToml? (.table table)) = some map ∧
        ∀ path : Path, path.stem = map.name → parseDocument path content = .ok map) ∧
    (∀ table : RouteTable, RouteTable.parse (Toml.write table.toToml) = .ok table) ∧
    (∀ schema : Schema, Toml.maxInteger < schema.version →
      renderDocument schema = .error (.serialization "out-of-range value for u64 type")) ∧
    ∀ map : ResolverMap, Toml.maxInteger < map.version →
      renderDocument map = .error (.serialization "out-of-range value for u64 type") := by
  refine ⟨?_, ?_, RouteTable.parse_write, ?_, ?_⟩
  · intro schema small
    exact FileStore.renderDocument_reads_back small
  · intro map small
    exact FileStore.renderDocument_reads_back small
  · intro schema large
    exact FileStore.renderDocument_of_large large
  · intro map large
    exact FileStore.renderDocument_of_large large

end GatewayControl
