import Cgroup.Mount.Table

/-!
# The mount table of a host

A process reads its mount infos below `/proc/self`. A host without a version 1 hierarchy has no
mount table.
-/

namespace Cgroup

/-- Why a host's mount table could not be had. -/
inductive TableError where
  /-- The process could not find itself. -/
  | noSelf (error : MountInfoError)
  /-- The mount infos could not be read. -/
  | noInfos (error : MountInfoError)
  /-- No version 1 hierarchy is mounted. -/
  | noneMounted
  deriving DecidableEq, Repr

/-- The wording of a table error. -/
def TableError.message : TableError → String
  | .noSelf error => s!"failed to read process info from /proc/self: {error.message}"
  | .noInfos error => s!"failed to get mountinfo: {error.message}"
  | .noneMounted => "cgroup mountpoint does not exist"

namespace Host

/-- Where a process finds itself. -/
def selfDirectory : Path := .ofString "/proc/self"

/-- Where a process finds its mount infos. -/
def mountInfoFile : Path := .ofString "/proc/self/mountinfo"

/-- A process finds itself unless the host refuses that. Every process has its directory, so that
a host need not list it: here, other than in `openFile`, a path without an entry can be opened, and
so can one with the entry of a regular file. -/
def openSelf (h : Host) : Except MountInfoError Unit :=
  match h.file selfDirectory with
  | .refused code => .error (.ofFault selfDirectory (.errno code))
  | _ => .ok ()

/-- The mount infos of a host. -/
def mountInfos (h : Host) : Except MountInfoError (List MountInfo) := do
  let bytes ← (h.openFile mountInfoFile >>= File.read).mapError (.ofFault mountInfoFile)
  MountInfo.read bytes

/-- The mount table of a host. -/
def mountTable (h : Host) : Except TableError Table := do
  h.openSelf.mapError .noSelf
  let table := Table.ofInfos (← h.mountInfos.mapError .noInfos)
  if table.isEmpty then .error .noneMounted else return table

/-- The directory that holds a host's version 1 hierarchies. -/
def v1MountPoint (h : Host) : Except TableError Path := do
  match (← h.mountTable).v1Root? with
  | none => .error .noneMounted
  | some path => return path

end Host
end Cgroup
