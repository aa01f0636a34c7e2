import Std.Data.ExtTreeMap
import Cgroup.Path.Basic

/-!
# Cgroup records

The membership of a target in the cgroup hierarchies of a host: a path for each subsystem, and
perhaps one in the version 2 hierarchy. Records are compared by the components of their paths.
-/

namespace Cgroup

/-- The cgroups that a target is a member of. -/
structure Record where
  /-- The path recorded for each subsystem. -/
  subsystems : Std.ExtTreeMap String Path
  /-- The path in the version 2 hierarchy. -/
  unified : Option Path

namespace Record

/-- The record without a membership. -/
def empty : Record := ⟨∅, none⟩

/-- The record with the given paths and no version 2 path; of two paths for one name the later
counts. -/
def ofList (paths : List (String × Path)) : Record :=
  ⟨paths.foldl (fun m (name, path) => m.insert name path) ∅, none⟩

/-- The path recorded for a subsystem. -/
def get? (r : Record) (subsystem : String) : Option Path :=
  r.subsystems[subsystem]?

/-- The recorded names and paths, by ascending names. -/
def toList (r : Record) : List (String × Path) :=
  r.subsystems.toList

/-- The number of recorded names. -/
def size (r : Record) : Nat :=
  r.subsystems.size

/-- Whether no name is recorded. -/
def isEmpty (r : Record) : Bool :=
  r.subsystems.isEmpty

/-- The components of the path of each subsystem. -/
def components (r : Record) : Std.ExtTreeMap String (List Component) :=
  r.subsystems.map fun _ => Path.components

/-- Two records are equivalent if they list the same names with equivalent paths. -/
instance : Setoid Record where
  r a b := a.components = b.components ∧
    a.unified.map Path.components = b.unified.map Path.components
  iseqv := ⟨fun _ => ⟨rfl, rfl⟩, fun h => ⟨h.1.symm, h.2.symm⟩,
    fun h h' => ⟨h.1.trans h'.1, h.2.trans h'.2⟩⟩

instance (a b : Record) : Decidable (a ≈ b) :=
  inferInstanceAs (Decidable (a.components = b.components ∧
    a.unified.map Path.components = b.unified.map Path.components))

end Record
end Cgroup
