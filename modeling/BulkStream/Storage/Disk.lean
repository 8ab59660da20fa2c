import BulkStream.Pieces
import BulkStream.Storage.Error

/-!
The part of a file system that the program can reach: files, directories and devices, each under its
path from the root. A path is followed name by name, so that what is wrong with a name shows before
anything behind it. The directory in which the program works lies two levels below the root.
-/
namespace BulkStream.Storage

/-- Names on the way from the root. -/
abbrev Path := List String

inductive Device
  /-- Has no room for anything; reads as zeros. -/
  | full
  /-- Takes everything; reads as empty. -/
  | null
  /-- Takes everything; reads as zeros. -/
  | zero
deriving DecidableEq, Repr

inductive Node
  | file (data : Pieces)
  | directory
  | device (device : Device)
deriving DecidableEq, Repr

/-- No path spells the last name, so that one that leaves the directory cannot come back by it. -/
def workingDirectory : Path := ["tmp", ""]

/-- What is there on every machine. -/
def commonNodes : List (Path × Node) :=
  [(["dev", "full"], .device .full), (["dev", "null"], .device .null),
    (["dev", "zero"], .device .zero), (workingDirectory, .directory), ([], .directory)] ++
  ["bin", "boot", "dev", "etc", "home", "lib", "media", "mnt", "opt", "proc", "root", "run", "sbin",
    "srv", "sys", "tmp", "usr", "var"].map (([·], .directory))

structure Disk where
  nodes : List (Path × Node) := commonNodes
deriving DecidableEq, Repr

/-- Bytes in the longest name, and in the longest path. -/
def nameLimit : Nat := 255

def pathLimit : Nat := 4095

namespace Disk

/-- A disk with nodes under the working directory, each at its path from there. -/
def ofNodes (nodes : List (Path × Node)) : Disk :=
  { nodes := nodes.map (fun (path, node) => (workingDirectory ++ path, node)) ++ commonNodes }

def lookup (d : Disk) (path : Path) : Option Node := d.nodes.lookup path

/-- The disk with a file of the given content. -/
def put (d : Disk) (path : Path) (data : Pieces) : Disk :=
  { d with nodes := (path, .file data) :: d.nodes.filter (·.1 ≠ path) }

def files (d : Disk) : List (String × Bytes) :=
  d.nodes.filterMap fun (path, node) =>
    match node, path.getLast? with
    | .file data, some name =>
        if path = workingDirectory ++ [name] then some (name, data.toBytes) else none
    | _, _ => none

def find (d : Disk) (here : Path) (name : String) : Except DiskError (Option Node) :=
  if nameLimit < name.utf8ByteSize then .error .nameTooLong else .ok (d.lookup (here ++ [name]))

def enter (d : Disk) (here : Path) (name : String) : Except DiskError Path := do
  if name = "." then return here
  else if name = ".." then return here.dropLast
  else
    match ← d.find here name with
    | some .directory => return here ++ [name]
    | some _ => throw .notDirectory
    | none => throw .notFound

/-- What a path leads to. -/
inductive Place
  | directory
  | file (path : Path) (data : Pieces)
  | device (device : Device)
  /-- Nothing is there, but a file can be made. -/
  | vacant (path : Path)
deriving DecidableEq, Repr

/-- Follow a path. With a slash at its end it leads to a directory only, and no file can be made
there, whatever there is. -/
def follow (d : Disk) (path : String) (making : Bool) : Except DiskError Place := do
  if path.contains '\x00' then throw .invalidName
  if pathLimit < path.utf8ByteSize then throw .nameTooLong
  let names := (path.splitOn "/").filter (· ≠ "")
  let start := if path.startsWith "/" then [] else workingDirectory
  let here ← names.dropLast.foldlM d.enter start
  match names.getLast? with
  | none | some "." | some ".." => return .directory
  | some name =>
      if making && path.endsWith "/" then throw .isDirectory
      match ← d.find here name, path.endsWith "/" with
      | some .directory, _ => return .directory
      | none, _ => if making then return .vacant (here ++ [name]) else throw .notFound
      | some _, true => throw .notDirectory
      | some (.file data), false => return .file (here ++ [name]) data
      | some (.device device), false => return .device device

/-- What reading gives. -/
inductive Content
  | data (bytes : Bytes)
  | zeros
  /-- A directory can be opened but not read. -/
  | directory
deriving DecidableEq, Repr

def openRead (d : Disk) (path : String) : Except DiskError Content := do
  match ← d.follow path false with
  | .directory => return .directory
  | .file _ data => return .data data.toBytes
  | .device .null => return .data []
  | .device _ => return .zeros
  | .vacant _ => throw .notFound

/-- Where written bytes go. -/
inductive Target
  | file (path : Path)
  | device (device : Device)
  /-- Takes nothing any more. -/
  | broken (error : DiskError)
deriving DecidableEq, Repr

/-- Create a file, or empty the one that is there. -/
def create (d : Disk) (path : String) : Except DiskError (Target × Disk) := do
  match ← d.follow path true with
  | .directory => throw .isDirectory
  | .device device => return (.device device, d)
  | .file target _ | .vacant target => return (.file target, d.put target .empty)

def append (d : Disk) (target : Target) (bytes : Bytes) : Except DiskError Unit × Disk :=
  match target with
  | .file path =>
      match d.lookup path with
      | some (.file data) => (.ok (), d.put path (data.push bytes))
      | _ => (.ok (), d.put path (.ofBytes bytes))
  | .device .full => (if bytes.isEmpty then .ok () else .error .noSpace, d)
  | .device _ => (.ok (), d)
  | .broken error => (if bytes.isEmpty then .ok () else .error error, d)

end Disk

end BulkStream.Storage
