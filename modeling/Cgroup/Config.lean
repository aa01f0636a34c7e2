import Cgroup.Json.Reader
import Cgroup.Resolve.Strategy

/-!
# Configured strategies

The strategies that can be written down in a configuration, as JSON. The member `type` of the
object says which one it is, wherever it stands; the other members are its fields. An array with
the type first and the fields behind it means the same.
-/

namespace Cgroup

/-- A strategy as it is configured. -/
inductive Config where
  /-- The given path in every hierarchy. -/
  | fixed (path : Path)
  /-- The root of every hierarchy. -/
  | root
  /-- A suffix below the cgroups of the calling process. -/
  | nested (suffix : Path)
  /-- The cgroups of another process. -/
  | process (pid : Int32)
  deriving DecidableEq, Repr

namespace Config

/-- The strategy that a configuration chooses. -/
def strategy : Config → Strategy
  | fixed path => .fixed path
  | root => .root
  | nested suffix => .nested suffix Strategy.defaultProcRoot
  | process pid => .process pid Strategy.defaultProcRoot

open Json (Value)

/-- The object that stands for a configuration. -/
def toValue : Config → Value
  | fixed path => .object [("type", .string "static"), ("path", .string path.toString)]
  | root => .object [("type", .string "root")]
  | nested suffix => .object [("type", .string "nested"), ("suffix", .string suffix.toString)]
  | process pid => .object [("type", .string "pid"), ("pid", .number (.ofInt pid.toInt))]

/-- Reads a configuration from its type and its fields. -/
def ofFields? (type : String) (field? : String → Option Value) : Option Config :=
  if type = "static" then
    ((field? "path").bind Value.string?).map fun path => fixed (.ofString path)
  else if type = "root" then some root
  else if type = "nested" then
    ((field? "suffix").bind Value.string?).map fun suffix => nested (.ofString suffix)
  else if type = "pid" then ((field? "pid").bind Value.int32?).map process
  else none

/-- Reads a configuration from a value. In an object every member that counts may stand once only,
an array has to have exactly the fields of its type. -/
def ofValue? : Value → Option Config
  | .object members =>
    ((Value.only? members "type").bind Value.string?).bind fun type =>
      ofFields? type (Value.only? members)
  | .array [.string type] => ofFields? type fun _ => none
  | .array [.string type, field] =>
    if type = "root" then none else ofFields? type fun _ => some field
  | _ => none

/-- Writes a configuration as compact JSON. -/
def encode (c : Config) : String :=
  c.toValue.print

/-- Reads a configuration from JSON text. -/
def decode? (text : String) : Option Config :=
  (Value.parse? text).bind ofValue?

end Config
end Cgroup
