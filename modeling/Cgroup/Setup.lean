import Cgroup.Host.Basic
import Cgroup.Path.Join

/-!
# Cgroup setups

How a host has its cgroup file systems mounted, told by the types of the file systems at the
cgroup root and at `unified` below it.
-/

namespace Cgroup

/-- The three ways to mount cgroups. -/
inductive Setup where
  /-- Version 1 hierarchies, and a version 2 hierarchy without controllers beside them. -/
  | hybrid
  /-- Version 1 hierarchies alone. -/
  | legacy
  /-- A version 2 hierarchy alone. -/
  | unified
  deriving DecidableEq, Repr

namespace Setup

/-- The name of a setup. -/
def name : Setup → String
  | .hybrid => "hybrid"
  | .legacy => "legacy"
  | .unified => "unified"

end Setup

/-- Why a setup could not be told. -/
inductive SetupError where
  /-- Nothing exists at the cgroup root. -/
  | nonDefault
  /-- The file system at the cgroup root is neither temporary nor a version 2 hierarchy. -/
  | undetected
  /-- The file system at a path is withheld. -/
  | withheld (path : Path) (errno : Int)
  deriving DecidableEq, Repr

/-- The wording of a setup error. -/
def SetupError.message : SetupError → String
  | .nonDefault => "non default cgroup root not supported"
  | .undetected => "failed to detect cgroup setup"
  | .withheld path errno => s!"io error: at {path.toString}: {Errno.symbolic errno}"

namespace Host

/-- The type number of a version 2 hierarchy. -/
def cgroup2Magic : Int := 0x63677270

/-- The type number of a temporary file system. -/
def tmpfsMagic : Int := 0x01021994

/-- Where cgroups are mounted by default. -/
def cgroupRoot : Path := .ofString "/sys/fs/cgroup"

/-- The type of the file system at a path, nothing for a path that does not exist. -/
def kindAt? (h : Host) (path : Path) : Except SetupError (Option Int) :=
  match h.fileSystemType? path with
  | none => .ok none
  | some (.error errno) => .error (.withheld path errno)
  | some (.ok kind) => .ok (some kind)

/-- The cgroup setup of a host with its cgroups mounted at `root`. The version 2 hierarchy of a
hybrid setup is mounted at `unified` below a temporary file system. -/
def setupAt (h : Host) (root : Path) : Except SetupError Setup := do
  match ← h.kindAt? root with
  | none => .error .nonDefault
  | some kind =>
    if kind = cgroup2Magic then return .unified
    if kind = tmpfsMagic then
      match ← h.kindAt? (root.join (.ofString "unified")) with
      | some kind => return if kind = cgroup2Magic then .hybrid else .legacy
      | none => return .legacy
    .error .undetected

/-- The cgroup setup of a host. -/
def setup (h : Host) : Except SetupError Setup :=
  h.setupAt cgroupRoot

end Host
end Cgroup
