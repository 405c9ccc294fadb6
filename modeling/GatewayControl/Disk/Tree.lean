import GatewayControl.Disk.Call

/-!
A disk as a value: which paths there are, and which of them are files with what in them. A path is
reached through directories only.
-/

namespace GatewayControl

inductive DiskEntry
  | directory
  | text (content : String)
  /-- A file whose bytes are no UTF-8. -/
  | bytes (content : List UInt8)
deriving DecidableEq

/-- The entries by path; the empty path is a directory that is always there. -/
structure Disk where
  entries : List (Path × DiskEntry) := []
deriving DecidableEq

namespace Disk

/-- Names that mean the same directory are left out of a path. -/
def resolve (path : Path) : Path := path.filter fun name => !(name = "" || name = ".")

def find (path : Path) : List (Path × DiskEntry) → Option DiskEntry
  | [] => none
  | (other, entry) :: rest => if path = other then some entry else find path rest

def entry? (disk : Disk) (path : Path) : Option DiskEntry :=
  if path = [] then some .directory else find path disk.entries

def putEntry (path : Path) (entry : DiskEntry) :
    List (Path × DiskEntry) → List (Path × DiskEntry)
  | [] => [(path, entry)]
  | (other, previous) :: rest =>
    if path = other then (path, entry) :: rest else (other, previous) :: putEntry path entry rest

def put (disk : Disk) (path : Path) (entry : DiskEntry) : Disk :=
  ⟨putEntry path entry disk.entries⟩

def erase (disk : Disk) (path : Path) : Disk :=
  ⟨disk.entries.filter fun entry => entry.1 ≠ path⟩

def maxNameLength : Nat := 255

/-- Why a path cannot be reached from the directory at `passed`. -/
def reachFault (disk : Disk) (passed : Path) : Path → Option DiskFault
  | [] => none
  | name :: rest =>
    if name.utf8ByteSize > maxNameLength then some .nameTooLong
    else if rest.isEmpty then none
    else
      match disk.entry? (passed ++ [name]) with
      | none => some .notFound
      | some .directory => reachFault disk (passed ++ [name]) rest
      | some _ => some .notDirectory

def look (disk : Disk) (path : Path) : Except DiskFault DiskEntry :=
  match reachFault disk [] path with
  | some fault => .error fault
  | none =>
    match disk.entry? path with
    | none => .error .notFound
    | some entry => .ok entry

def readText (disk : Disk) (path : Path) : Except DiskFault String :=
  match disk.look path with
  | .error fault => .error fault
  | .ok .directory => .error .isDirectory
  | .ok (.bytes _) => .error .invalidText
  | .ok (.text content) => .ok content

def writeFile (disk : Disk) (path : Path) (entry : DiskEntry) : Except DiskFault Disk :=
  match reachFault disk [] path with
  | some fault => .error fault
  | none =>
    match disk.entry? path with
    | some .directory => .error .isDirectory
    | _ => .ok (disk.put path entry)

def rename (disk : Disk) (source target : Path) : Except DiskFault Disk :=
  match disk.look source with
  | .error fault => .error fault
  | .ok entry => (disk.erase source).writeFile target entry

def createDirectories (disk : Disk) (passed : Path) : Path → Except DiskFault Disk
  | [] => .ok disk
  | name :: rest =>
    if name.utf8ByteSize > maxNameLength then .error .nameTooLong
    else
      let path := passed ++ [name]
      match disk.entry? path with
      | none => createDirectories (disk.put path .directory) path rest
      | some .directory => createDirectories disk path rest
      | some _ => .error (if rest.isEmpty then .alreadyExists else .notDirectory)

def isThere (disk : Disk) (path : Path) : Except DiskFault Bool :=
  match disk.look path with
  | .ok _ => .ok true
  | .error .notFound => .ok false
  | .error fault => .error fault

def nameIn (directory path : Path) : Option String :=
  match path.getLast? with
  | some name => if path.dropLast = directory then some name else none
  | none => none

def list (disk : Disk) (path : Path) : Except DiskFault (List String) :=
  match disk.look path with
  | .error fault => .error fault
  | .ok .directory => .ok (disk.entries.filterMap fun entry => nameIn path entry.1)
  | .ok _ => .error .notDirectory

def remove (disk : Disk) (path : Path) : Except DiskFault Disk :=
  match disk.look path with
  | .error fault => .error fault
  | .ok .directory => .error .isDirectory
  | .ok _ => .ok (disk.erase path)

def removeDirectory (disk : Disk) (path : Path) : Except DiskFault Disk :=
  match disk.look path with
  | .error fault => .error fault
  | .ok .directory => .ok ⟨disk.entries.filter fun entry => !path.isPrefixOf entry.1⟩
  | .ok _ => .error .notDirectory

def files (disk : Disk) : List Path :=
  disk.entries.filterMap fun entry =>
    match entry.2 with
    | .directory => none
    | .text _ | .bytes _ => some entry.1

/-- The reply, and the disk that is left: a failed operation changes nothing. -/
def changed (disk : Disk) : Except DiskFault Disk → Except DiskFault Unit × Disk
  | .ok disk => (.ok (), disk)
  | .error fault => (.error fault, disk)

def handle : DiskHandler Disk
  | .readText path, disk => (disk.readText (resolve path), disk)
  | .writeText path content, disk => disk.changed (disk.writeFile (resolve path) (.text content))
  | .rename source target, disk => disk.changed (disk.rename (resolve source) (resolve target))
  | .createDirectories path, disk => disk.changed (disk.createDirectories [] (resolve path))
  | .isThere path, disk => (disk.isThere (resolve path), disk)
  | .list path, disk => (disk.list (resolve path), disk)

end Disk

end GatewayControl
