import Cgroup.Mount.Info
import Cgroup.Path.Join

/-!
# Mount tables

The version 1 hierarchies that a host has mounted, in the order of the mount infos, and where the
version 2 hierarchy is mounted if it is. A subsystem belongs to the first mount that lists it.
-/

namespace Cgroup

/-- A mounted version 1 hierarchy. -/
structure Mount where
  /-- The directory that it is mounted on. -/
  mountPoint : Path
  /-- The path inside the hierarchy that is visible there. -/
  root : Path
  /-- The controllers and named hierarchies mounted there, in ascending order. -/
  subsystems : List String
  deriving DecidableEq, Repr

/-- The name under which a hierarchy without a controller is mounted. -/
def named (name : String) : String := "name=" ++ name

namespace Mount

/-- The type of the file system of a version 1 hierarchy. -/
def fsType : String := "cgroup"

/-- The options that a version 1 hierarchy may carry beside its subsystems. -/
def genericOptions : List String :=
  ["rw", "ro", "xattr", "clone_children", "noprefix", "cpuset_v2_mode", "favordynmods",
   "nofavordynmods"]

/-- The subsystem that an option stands for: a name with a value is a named hierarchy, an option
without a value that is not generic is a controller. -/
def ofOption? : String × Option String → Option String
  | (option, some value) => if option = "name" then some (named value) else none
  | (option, none) => if option ∈ genericOptions then none else some option

/-- The subsystems that options stand for, in ascending order. -/
def ofOptions (options : List (String × Option String)) : List String :=
  (options.filterMap ofOption?).mergeSort

/-- The mounted hierarchy that a mount info tells about. -/
def ofInfo (info : MountInfo) : Mount :=
  ⟨info.mountPoint, info.root, ofOptions info.options.toList⟩

/-- Whether a subsystem is mounted there. -/
def hasSubsystem (m : Mount) (subsystem : String) : Bool :=
  m.subsystems.contains subsystem

/-- What a mount is apart from the spelling of its paths. -/
def shape (m : Mount) : List Component × List Component × List String :=
  (m.mountPoint.components, m.root.components, m.subsystems)

end Mount

/-- The cgroup mounts of a host. -/
structure Table where
  /-- The version 1 hierarchies. -/
  mounts : List Mount
  /-- The mount point of the version 2 hierarchy. -/
  unified : Option Path
  deriving DecidableEq, Repr

namespace Table

/-- The type of the file system of a version 2 hierarchy. -/
def unifiedFsType : String := "cgroup2"

/-- The table without a mount. -/
def empty : Table := ⟨[], none⟩

/-- The cgroup mounts among mount infos. -/
def ofInfos (infos : List MountInfo) : Table :=
  ⟨(infos.filter (·.fsType = Mount.fsType)).map Mount.ofInfo,
    (infos.find? (·.fsType = unifiedFsType)).map MountInfo.mountPoint⟩

/-- Whether no version 1 hierarchy is mounted. -/
def isEmpty (t : Table) : Bool :=
  t.mounts.isEmpty

/-- The subsystems of all mounts, in their order. -/
def subsystems (t : Table) : List String :=
  t.mounts.flatMap Mount.subsystems

/-- The mount of a subsystem: the first that lists it. -/
def find? (t : Table) (subsystem : String) : Option Mount :=
  t.mounts.find? (·.hasSubsystem subsystem)

/-- The directory that a subsystem is mounted on. -/
def mountPoint? (t : Table) (subsystem : String) : Option Path :=
  (t.find? subsystem).map Mount.mountPoint

/-- The path inside its hierarchy that the mount of a subsystem shows. -/
def destination? (t : Table) (subsystem : String) : Option Path :=
  (t.find? subsystem).map Mount.root

/-- The directory that holds the version 1 hierarchies: the parent of the first mount point. -/
def v1Root? (t : Table) : Option Path :=
  t.mounts.head?.bind (·.mountPoint.parent?)

/-- Two tables are equivalent if they list the same mounts with equivalent paths. -/
instance : Setoid Table where
  r t u := t.mounts.map Mount.shape = u.mounts.map Mount.shape ∧
    t.unified.map Path.components = u.unified.map Path.components
  iseqv := ⟨fun _ => ⟨rfl, rfl⟩, fun h => ⟨h.1.symm, h.2.symm⟩,
    fun h h' => ⟨h.1.trans h'.1, h.2.trans h'.2⟩⟩

instance (t u : Table) : Decidable (t ≈ u) :=
  inferInstanceAs (Decidable (t.mounts.map Mount.shape = u.mounts.map Mount.shape ∧
    t.unified.map Path.components = u.unified.map Path.components))

end Table
end Cgroup
