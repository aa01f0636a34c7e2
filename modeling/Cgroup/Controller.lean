import Cgroup.Json.Reader

/-!
# Controllers

The controllers of version 1 cgroups and the names that the kernel gives them. A named hierarchy
is not a controller and goes by its plain name.
-/

namespace Cgroup

/-- A version 1 controller. -/
inductive Controller where
  | cpu
  | cpuAccounting
  | cpuSet
  | devices
  | hugePages
  | memory
  | pids
  | perfEvent
  | blockIo
  | networkPriority
  | networkClassifier
  | freezer
  | rdma
  deriving DecidableEq, Repr

namespace Controller

/-- All controllers. -/
def all : List Controller :=
  [cpu, cpuAccounting, cpuSet, devices, hugePages, memory, pids, perfEvent, blockIo,
   networkPriority, networkClassifier, freezer, rdma]

/-- The kernel's name of a controller. -/
def name : Controller → String
  | cpu => "cpu"
  | cpuAccounting => "cpuacct"
  | cpuSet => "cpuset"
  | devices => "devices"
  | hugePages => "hugetlb"
  | memory => "memory"
  | pids => "pids"
  | perfEvent => "perf_event"
  | blockIo => "blkio"
  | networkPriority => "net_prio"
  | networkClassifier => "net_cls"
  | freezer => "freezer"
  | rdma => "rdma"

/-- The controller with a name. -/
def ofName? (name : String) : Option Controller :=
  all.find? (·.name = name)

/-- What is said about a name that no controller has. -/
def unknownMessage (name : String) : String :=
  s!"unknown cgroup v1 controller {name}"

/-- Every controller is found by its name. -/
theorem ofName?_name (c : Controller) : ofName? c.name = some c := by
  cases c <;> decide

/-! ## In JSON -/

/-- The value that stands for a controller. -/
def toValue (c : Controller) : Json.Value :=
  .string c.name

/-- Reads a controller from a value: its name, or an object with the name as its only key and
nothing under it. -/
def ofValue? : Json.Value → Option Controller
  | .string name => ofName? name
  | .object [(name, .null)] => ofName? name
  | _ => none

/-- Reads a controller from JSON text. -/
def decode? (text : String) : Option Controller :=
  (Json.Value.parse? text).bind ofValue?

end Controller
end Cgroup
