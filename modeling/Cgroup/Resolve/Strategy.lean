import Cgroup.Resolve.Membership
import Cgroup.Text.Numeral

/-!
# Strategies

Ways to say which cgroup is meant: a path that holds everywhere, the root, the cgroups of a
process on the host, or a record that has been read before. A strategy is resolved for a subsystem
against a mount table, or against the one of the host.
-/

namespace Cgroup

/-- A choice of cgroups. -/
inductive Strategy where
  /-- The given path in every hierarchy. -/
  | fixed (path : Path)
  /-- The root of every hierarchy. -/
  | root
  /-- A suffix below the cgroups of the calling process. -/
  | nested (suffix procRoot : Path)
  /-- The cgroups of another process. -/
  | process (pid : Int32) (procRoot : Path)
  /-- The cgroups of a record, with an optional suffix. -/
  | existing (record : Record) (suffix : Option Path)

namespace Strategy

/-- Where processes are listed by default. -/
def defaultProcRoot : Path := .ofString "/proc"

/-- The file with the record of the calling process. -/
def selfRecordFile (procRoot : Path) : Path :=
  (procRoot.join (.ofString "self")).join (.ofString "cgroup")

/-- The file with the record of another process. -/
def processRecordFile (pid : Int32) (procRoot : Path) : Path :=
  (procRoot.join ⟨Numeral.signed pid.toInt⟩).join (.ofString "cgroup")

/-- Resolves the record in a file of the host. -/
def resolveFile (h : Host) (file : Path) (suffix : Option Path) (t : Table) (subsystem : String) :
    Except ResolutionError Path := do
  let record ← (h.readRecord file).mapError .record
  record.resolve suffix t subsystem

/-- Resolves a strategy for a subsystem against a mount table. -/
def resolveIn (h : Host) (t : Table) (subsystem : String) : Strategy → Except ResolutionError Path
  | fixed path => .ok path
  | root => .ok .root
  | nested suffix procRoot =>
    resolveFile h (selfRecordFile procRoot) (some suffix) t subsystem
  | process pid procRoot =>
    resolveFile h (processRecordFile pid procRoot) none t subsystem
  | existing record suffix => record.resolve suffix t subsystem

/-- Resolves a strategy for a subsystem against the mount table of the host, which is read only if
the answer depends on it. -/
def resolve (h : Host) (subsystem : String) : Strategy → Except ResolutionError Path
  | fixed path => .ok path
  | root => .ok .root
  | strategy => do
    let t ← h.mountTable.mapError .ofTableError
    strategy.resolveIn h t subsystem

/-- Two strategies are the same choice if they differ in the spelling of paths at most. -/
def Same : Strategy → Strategy → Prop
  | fixed p, fixed q => p ≈ q
  | root, root => True
  | nested s r, nested s' r' => s ≈ s' ∧ r ≈ r'
  | process n r, process n' r' => n = n' ∧ r ≈ r'
  | existing a s, existing b s' => a ≈ b ∧ s.map Path.components = s'.map Path.components
  | _, _ => False

instance : DecidableRel Same := fun a b => by
  unfold Same
  split <;> infer_instance

end Strategy
end Cgroup
