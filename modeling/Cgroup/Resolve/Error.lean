import Cgroup.Mount.Live
import Cgroup.Record.Reading

/-!
# Resolution errors

Why the cgroup of a target could not be told or placed. The first three causes are outcomes of
the lookup itself, the others say that something could not be read or joined.
-/

namespace Cgroup

/-- Why a path could not be resolved or placed. -/
inductive ResolutionError where
  /-- No version 1 hierarchy is mounted. -/
  | noneMounted
  /-- The target is in no hierarchy of the subsystem. -/
  | notActive (subsystem : String)
  /-- The hierarchy of the subsystem is not mounted. -/
  | noDestination (subsystem : String)
  /-- The record of the target could not be read. -/
  | record (error : RecordError)
  /-- The mount table of the host could not be read. -/
  | table (error : TableError)
  /-- A suffix or a cgroup could not be joined below its base. -/
  | join (error : Path.JoinError)
  deriving DecidableEq, Repr

namespace ResolutionError

/-- The cause behind a table error: a host without hierarchies could be read, it has none. -/
def ofTableError : TableError → ResolutionError
  | .noneMounted => .noneMounted
  | error => .table error

/-- The wording of a resolution error. -/
def message : ResolutionError → String
  | .noneMounted => "cgroup mountpoint does not exist"
  | .notActive subsystem => s!"cgroup controller {subsystem} is not active"
  | .noDestination subsystem => s!"cannot find cgroup mount destination for {subsystem}"
  | .record error => s!"failed to parse cgroup record: {error.message}"
  | .table error => s!"failed to read mount table: {error.message}"
  | .join error => s!"failed to join path: {error.message}"

end ResolutionError
end Cgroup
