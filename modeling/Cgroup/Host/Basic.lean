import Cgroup.Host.Errno
import Cgroup.Path.Basic

/-!
# Hosts

A host is what its system calls answer: for each path, spelled exactly, what opening it gives and
which file system it lies on. Nothing else of a machine matters to cgroup lookup, so two hosts
that answer alike are equal.
-/

namespace Cgroup

/-- What a host holds for a path that may be opened. -/
inductive FileEntry where
  /-- Nothing. -/
  | absent
  /-- A file with the given bytes. -/
  | content (bytes : List UInt8)
  /-- A directory: it opens, but cannot be read as a file. -/
  | directory
  /-- An entry that refuses to be opened with the given error number. -/
  | refused (errno : Int)

/-- What a host holds for a path that may be asked for its file system. -/
inductive FileSystemEntry where
  /-- Nothing. -/
  | absent
  /-- A place on a file system with the given type number. -/
  | magic (kind : Int)
  /-- A place whose file system is withheld with the given error number. -/
  | refused (errno : Int)

/-- The answers of a host's system calls. -/
structure Host where
  /-- The file at a path. -/
  file : Path → FileEntry
  /-- The file system at a path. -/
  fileSystem : Path → FileSystemEntry

/-- Why a file could not be opened or read. -/
inductive IoFault where
  /-- The system gave an error number. -/
  | errno (code : Int)
  /-- The name holds a null character, so that no system call was made. -/
  | nullInName
  /-- The bytes are not UTF-8. -/
  | notUtf8
  deriving DecidableEq, Repr

/-- The wording of a fault. -/
def IoFault.message : IoFault → String
  | .errno code => Errno.numbered code
  | .nullInName => "file name contained an unexpected NUL byte"
  | .notUtf8 => "stream did not contain valid UTF-8"

/-- A file that has been opened. -/
inductive File where
  /-- A file with the given bytes. -/
  | content (bytes : List UInt8)
  /-- A directory. -/
  | directory
  deriving DecidableEq, Repr

/-- The bytes of an open file. Reading fails for a directory only: a host has no files that open but
break off with another error number. -/
def File.read : File → Except IoFault (List UInt8)
  | .content bytes => .ok bytes
  | .directory => .error (.errno Errno.isDirectory)

namespace Host

/-- The host that holds nothing. -/
def bare : Host := ⟨fun _ => .absent, fun _ => .absent⟩

/-- The host with one file entry changed. -/
def setFile (h : Host) (p : Path) (entry : FileEntry) : Host :=
  { h with file := fun q => if q = p then entry else h.file q }

/-- The host with one file system entry changed. -/
def setFileSystem (h : Host) (p : Path) (entry : FileSystemEntry) : Host :=
  { h with fileSystem := fun q => if q = p then entry else h.fileSystem q }

/-- Opens a path. -/
def openFile (h : Host) (p : Path) : Except IoFault File :=
  if '\x00' ∈ p.chars then .error .nullInName
  else match h.file p with
    | .absent => .error (.errno Errno.noEntry)
    | .refused code => .error (.errno code)
    | .content bytes => .ok (.content bytes)
    | .directory => .ok .directory

/-- The type number of the file system at a path, or the error number that withholds it; nothing
for a path that does not exist. -/
def fileSystemType? (h : Host) (p : Path) : Option (Except Int Int) :=
  if '\x00' ∈ p.chars then none
  else match h.fileSystem p with
    | .absent => none
    | .refused code => some (.error code)
    | .magic kind => some (.ok kind)

end Host
end Cgroup
