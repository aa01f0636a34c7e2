import Cgroup.Path.Clean
import Cgroup.Resolve.Error

/-!
# Recorded memberships and their directories

Where a record's target sits in the hierarchies that a table has mounted. The recorded entries are
visited by ascending names. One whose hierarchy is mounted is rewritten as its mount shows it, one
without a mount is ignored if the target is at its root; otherwise the target is stranded there,
and no subsystem of the record is resolved.

The other way round, the directory of a cgroup is found below the mount point of its hierarchy. The
cgroup's path is cleaned first, so that it cannot lead out of there.
-/

namespace Cgroup

namespace Table

/-- The local paths after one more recorded entry. -/
def addLocal (t : Table) (paths : Std.ExtTreeMap String Path) (entry : String × Path) :
    Except ResolutionError (Std.ExtTreeMap String Path) :=
  match t.destination? entry.1 with
  | some top => .ok (paths.insert entry.1 (top.localizeAt entry.2))
  | none =>
    if entry.2 ≈ Path.root then .ok paths else .error (.noDestination entry.1)

/-- The recorded paths as seen in their mounts. The order in which the entries are listed does not
count: the first stranded one is that of the least name. -/
def localize (t : Table) (entries : List (String × Path)) :
    Except ResolutionError (Std.ExtTreeMap String Path) :=
  (entries.mergeSort fun a b => a.1 ≤ b.1).foldlM t.addLocal ∅

/-- The path of a target with the given recorded entries, for a subsystem or for the named
hierarchy of that name, with a suffix below it. -/
def resolve (t : Table) (entries : List (String × Path)) (suffix : Option Path)
    (subsystem : String) : Except ResolutionError Path := do
  let paths ← t.localize entries
  match paths[subsystem]?.or paths[named subsystem]? with
  | none => .error (.notActive subsystem)
  | some base => (base.descend suffix).mapError .join

/-- The directory of the cgroup at `path` in the hierarchy of a subsystem, or in the named
hierarchy of that name. -/
def hostPath (t : Table) (subsystem : String) (path : Path) : Except ResolutionError Path :=
  if t.isEmpty then .error .noneMounted
  else match (t.mountPoint? subsystem).or (t.mountPoint? (named subsystem)) with
    | none => .error (.noDestination subsystem)
    | some mountPoint => (mountPoint.joinBelow path.clean).mapError .join

end Table

namespace Record

/-- The path of a record's target for a subsystem, or for the named hierarchy of that name, with a
suffix below it. -/
def resolve (r : Record) (suffix : Option Path) (t : Table) (subsystem : String) :
    Except ResolutionError Path :=
  t.resolve r.toList suffix subsystem

/-- A record is stranded on a name if the hierarchy is not mounted and the path is not its root. -/
def StrandedAt (r : Record) (t : Table) (name : String) : Prop :=
  t.destination? name = none ∧ ∃ path, r.get? name = some path ∧ ¬ path ≈ Path.root

/-- A record is active for a name if the name is recorded and its hierarchy is mounted. -/
def ActiveAt (r : Record) (t : Table) (name : String) : Prop :=
  (r.get? name).isSome ∧ (t.destination? name).isSome

instance (r : Record) (t : Table) (name : String) : Decidable (r.ActiveAt t name) :=
  inferInstanceAs (Decidable (_ ∧ _))

/-- The name that a subsystem is answered from: itself if the record is active for it, else the
named hierarchy of that name. -/
def answering (r : Record) (t : Table) (subsystem : String) : String :=
  if r.ActiveAt t subsystem then subsystem else named subsystem

end Record
end Cgroup
