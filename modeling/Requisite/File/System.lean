import Requisite.File.Path

/-!
# Reading files
-/

namespace Requisite

inductive ReadFailure where
  | notFound
  | permissionDenied
  | isADirectory
  | notADirectory
  | invalidData
  deriving DecidableEq, Repr

structure ReadError where
  failure : ReadFailure
  text : String
  deriving DecidableEq, Repr

/-- Whatever gives texts for paths. -/
structure FileSystem where
  read : String → Except ReadError String

namespace FileSystem

/-- Files that are held in memory. Some paths can be denied. -/
def ofFiles (files : List (String × String)) (denied : List String) : FileSystem where
  read path :=
    if denied.contains path then .error ⟨.permissionDenied, "denied"⟩
    else
      match files.find? (Path.ofText ·.1 == Path.ofText path) with
      | some (_, text) => .ok text
      | none => .error ⟨.notFound, "not found"⟩

end FileSystem

/-! ## Disks -/

namespace ReadError

def notFound : ReadError := ⟨.notFound, "No such file or directory (os error 2)"⟩

def isADirectory : ReadError := ⟨.isADirectory, "Is a directory (os error 21)"⟩

def notADirectory : ReadError := ⟨.notADirectory, "Not a directory (os error 20)"⟩

def invalidData : ReadError := ⟨.invalidData, "stream did not contain valid UTF-8"⟩

end ReadError

inductive DiskEntry where
  | file (bytes : ByteArray)
  | directory

/-- A working directory and what is in it, by place. -/
structure Disk where
  entries : List (List (List Char) × DiskEntry)

namespace Disk

/-- Each path makes the directories it goes through. -/
def ofEntries (entries : List (String × DiskEntry)) : Disk :=
  ⟨entries.map fun (path, entry) => ((Path.ofText path).names.filter (· != ['.']), entry)⟩

def entry? (disk : Disk) (place : List (List Char)) : Option DiskEntry :=
  match disk.entries.find? (·.1 == place) with
  | some (_, entry) => some entry
  | none =>
    if place.isEmpty || disk.entries.any (place.isPrefixOf ·.1) then some .directory else none

/-- Outside the working directory only the directories above it are known. -/
def walkOutside (pieces : List (List Char)) : Except ReadError DiskEntry :=
  if pieces.all fun piece => piece.isEmpty || piece == ['.'] || piece == ['.', '.'] then
    .ok .directory
  else .error .notFound

/-- What a path leads to from a place, whose last name comes first. -/
def walk (disk : Disk) (place : List (List Char)) :
    List (List Char) → Except ReadError DiskEntry
  | [] =>
    match disk.entry? place.reverse with
    | some entry => .ok entry
    | none => .error .notFound
  | piece :: pieces =>
    match disk.entry? place.reverse with
    | none => .error .notFound
    | some (.file _) => .error .notADirectory
    | some .directory =>
      if piece.isEmpty || piece == ['.'] then disk.walk place pieces
      else if piece == ['.', '.'] then
        match place with
        | [] => walkOutside pieces
        | _ :: above => disk.walk above pieces
      else disk.walk (piece :: place) pieces

def find (disk : Disk) (path : String) : Except ReadError DiskEntry :=
  match path.toList with
  | [] => .error .notFound
  | '/' :: cs => walkOutside (segments cs)
  | cs => disk.walk [] (segments cs)

def fileSystem (disk : Disk) : FileSystem where
  read path := do
    match ← disk.find path with
    | .directory => .error .isADirectory
    | .file bytes =>
      match String.fromUTF8? bytes with
      | some text => .ok text
      | none => .error .invalidData

end Disk

end Requisite
