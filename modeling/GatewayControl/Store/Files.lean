import GatewayControl.Disk.Call
import GatewayControl.Store.Call

/-!
A store in a directory: one document for each object, named for the object, in a directory for each
kind. A document is written to a temporary file beside it, which is then renamed, so that a reader
finds the old document or the new one and never a part. Temporary files have another extension and
are not listed.
-/

namespace GatewayControl

structure FileStore where
  root : Path
deriving DecidableEq, Repr

def ioFault (fault : DiskFault) : StorageFault := .io fault.message

namespace FileStore

def directoryName : ObjectKind → String
  | .schema => "schemas"
  | .resolverMap => "resolver_maps"

def directory (store : FileStore) (kind : ObjectKind) : Path :=
  store.root ++ [directoryName kind]

def documentExtension : String := "toml"

def path (store : FileStore) (kind : ObjectKind) (name : String) : Path :=
  store.directory kind ++ [name ++ "." ++ documentExtension]

def temporaryPath (path : Path) : Path := path.withExtension "toml.tmp"

def path? (store : FileStore) (kind : ObjectKind) (name : String) : Except StorageFault Path :=
  match nameFault name with
  | some fault => .error (.invalidName kind fault.message)
  | none => .ok (store.path kind name)

section

variable {α : Type} [StoredObject α]

open StoredObject

def parseDocument (path : Path) (content : String) : Except StorageFault α :=
  match Toml.read content >>= fun table => ofToml? (.table table) with
  | none => .error (.serialization (path.display ++ ": " ++ Toml.readErrorMessage))
  | some object =>
    if name object = path.stem then .ok object
    else .error (.nameMismatch path.display (name object) path.stem)

def renderDocument (object : α) : Except StorageFault String :=
  match toToml object with
  | .error fault => .error (.serialization fault.message)
  | .ok table => .ok (Toml.write table)

def read (store : FileStore) (objectName : String) : DiskProgram (Except StorageFault α) :=
  match store.path? (kind α) objectName with
  | .error fault => .done (.error fault)
  | .ok path =>
    .call (.readText path) fun
      | .error .notFound => .done (.error (.notFound (kind α) objectName))
      | .error fault => .done (.error (ioFault fault))
      | .ok content => .done (parseDocument path content)

def write (path : Path) (object : α) : DiskProgram (Except StorageFault α) :=
  match renderDocument object with
  | .error fault => .done (.error fault)
  | .ok content =>
    .call (.writeText (temporaryPath path) content) fun
      | .error fault => .done (.error (ioFault fault))
      | .ok _ =>
        .call (.rename (temporaryPath path) path) fun
          | .error fault => .done (.error (ioFault fault))
          | .ok _ => .done (.ok object)

def update (store : FileStore) (object : α) : DiskProgram (Except StorageFault α) :=
  (store.read (α := α) (name object)).bind fun
    | .error fault => .done (.error fault)
    | .ok current =>
      if version object = version current then
        write (store.path (kind α) (name object)) (withVersion object (nextVersion (version object)))
      else
        .done (.error (.conflict (kind α) (name object) (version object) (version current)))

def create (store : FileStore) (object : α) : DiskProgram (Except StorageFault α) :=
  match store.path? (kind α) (name object) with
  | .error fault => .done (.error fault)
  | .ok path =>
    .call (.isThere path) fun
      | .error fault => .done (.error (ioFault fault))
      | .ok true => .done (.error (.alreadyExists (kind α) (name object)))
      | .ok false => write path (withVersion object 1)

def readAll : List Path → DiskProgram (Except StorageFault (List α))
  | [] => .done (.ok [])
  | path :: paths =>
    .call (.readText path) fun
      | .error fault => .done (.error (ioFault fault))
      | .ok content =>
        match parseDocument path content with
        | .error fault => .done (.error fault)
        | .ok object =>
          (readAll paths).bind fun
            | .error fault => .done (.error fault)
            | .ok objects => .done (.ok (object :: objects))

def documentNames (names : List String) : List String :=
  (names.filter fun name => Path.nameExtension name = some documentExtension).mergeSort
    fun left right => left ≤ right

def list (store : FileStore) : DiskProgram (Except StorageFault (List α)) :=
  let directory := store.directory (kind α)
  .call (.list directory) fun
    | .error fault => .done (.error (ioFault fault))
    | .ok names => readAll ((documentNames names).map fun name => directory ++ [name])

end

def answer (store : FileStore) : (call : StoreCall) → DiskProgram call.Reply
  | .getSchema name => store.read name
  | .updateSchema schema => store.update schema
  | .listSchemas => store.list
  | .getMap name => store.read name
  | .createMap map => store.create map
  | .updateMap map => store.update map
  | .listMaps => store.list

def handle {σ : Type} (store : FileStore) (disk : DiskHandler σ) : StoreHandler σ :=
  fun call state => (store.answer call).run disk state

def «open» (root : Path) : DiskProgram (Except StorageFault FileStore) :=
  let store : FileStore := ⟨root⟩
  .call (.createDirectories (store.directory .schema)) fun
    | .error fault => .done (.error (ioFault fault))
    | .ok _ =>
      .call (.createDirectories (store.directory .resolverMap)) fun
        | .error fault => .done (.error (ioFault fault))
        | .ok _ => .done (.ok store)

end FileStore

end GatewayControl
