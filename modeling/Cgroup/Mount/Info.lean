import Std.Data.ExtTreeMap
import Cgroup.Host.Basic
import Cgroup.Text.Cut
import Cgroup.Text.Lines
import Cgroup.Text.Numeral

/-!
# Mount infos

What the system tells about one mount, and how it is read from a line of `mountinfo` text. Each
line is one mount; nothing in the text is unescaped, and a single malformed line fails all.
-/

namespace Cgroup

/-- What the system tells about a mount, as far as cgroup lookup needs it. -/
structure MountInfo where
  /-- The type of the file system. -/
  fsType : String
  /-- Where it is mounted. -/
  mountPoint : Path
  /-- The path inside the file system that is visible at the mount point. -/
  root : Path
  /-- The options of the file system, each with its value if it has one. -/
  options : Std.ExtTreeMap String (Option String)

/-- Why mount infos could not be read. -/
inductive MountInfoError where
  /-- A file may not be opened. -/
  | denied (path : Path)
  /-- A file, or the process that it tells about, does not exist. -/
  | missing (path : Path)
  /-- A file could not be opened or read for another reason. -/
  | failed (path : Path) (fault : IoFault)
  /-- A line is not UTF-8. -/
  | notUtf8
  /-- A line does not describe a mount. -/
  | malformed
  deriving DecidableEq, Repr

namespace MountInfoError

/-- The error for a file that could not be opened or read. -/
def ofFault (path : Path) (fault : IoFault) : MountInfoError :=
  if fault = .errno Errno.notPermitted ∨ fault = .errno Errno.accessDenied then .denied path
  else if fault = .errno Errno.noEntry ∨ fault = .errno Errno.noProcess then .missing path
  else .failed path fault

/-- The wording of a mount info error. -/
def message : MountInfoError → String
  | .denied path => s!"Permission Denied: {path.toString}"
  | .missing path => s!"File not found: {path.toString}"
  | .failed path fault => s!"Unexpected IO error({path.toString}): {fault.message}"
  | .notUtf8 => s!"Unexpected IO error: {IoFault.notUtf8.message}"
  | .malformed => "malformed mount info"

end MountInfoError

namespace MountInfo

/-- The optional fields that tell about propagation between peer groups. -/
def peerGroupFields : List (List Char) :=
  ["shared".toList, "master".toList, "propagate_from".toList]

/-- An optional field is valid unless it has to name a peer group and does not. -/
def isOptionalField (field : List Char) : Bool :=
  match field.splitOn ':' with
  | [] => true
  | name :: values => name ∉ peerGroupFields || (values.head?.bind Numeral.word32?).isSome

/-- One option: a name, and a value if there is an equals sign. -/
def ofOption (item : List Char) : String × Option String :=
  match Text.cut? '=' item with
  | none => (String.ofList item, none)
  | some (name, value) => (String.ofList name, some (String.ofList value))

/-- Options separated by commas; of two for one name the later counts. -/
def readOptions (text : List Char) : Std.ExtTreeMap String (Option String) :=
  ((text.splitOn ',').map ofOption).foldl (fun m (name, value) => m.insert name value) ∅

/-- The mount with the given fields: id, parent, device, root, mount point and flags of the mount,
optional fields up to a lone hyphen, then type, source and options of the file system. -/
def ofFields? : List (List Char) → Option MountInfo
  | id :: parent :: _device :: root :: mountPoint :: _flags :: rest =>
    match Text.cut? ['-'] rest with
    | some (optional, fsType :: _source :: options :: _) =>
      if (Numeral.int32? id).isSome && (Numeral.int32? parent).isSome
          && optional.all isOptionalField then
        some ⟨String.ofList fsType, ⟨mountPoint⟩, ⟨root⟩, readOptions options⟩
      else none
    | _ => none
  | _ => none

/-- Reads one line of `mountinfo` text. -/
def ofLine (line : List UInt8) : Except MountInfoError MountInfo :=
  match Text.decode? line with
  | none => .error .notUtf8
  | some text =>
    match ofFields? (Text.words text) with
    | none => .error .malformed
    | some info => .ok info

/-- Reads `mountinfo` text. -/
def read (bytes : List UInt8) : Except MountInfoError (List MountInfo) :=
  (Text.lines bytes).mapM ofLine

end MountInfo
end Cgroup
