import Cgroup.Host.Basic
import Cgroup.Record.Entry
import Cgroup.Text.Lines
import Cgroup.Text.Quoted

/-!
# Reading records

A record is read line by line. Blanks around a line do not count and neither do blank lines; the
first line that is no entry fails the whole record.
-/

namespace Cgroup

/-- Why a record could not be read. -/
inductive RecordError where
  /-- The file could not be opened. -/
  | cannotOpen (path : Path) (fault : IoFault)
  /-- The file could not be read to its end. -/
  | cannotRead (path : Path) (fault : IoFault)
  /-- A line is no entry. -/
  | malformed (fault : EntryFault) (line : List Char)
  deriving DecidableEq, Repr

/-- The wording of a fault, to be followed by the line. -/
def EntryFault.message : EntryFault → String
  | .fields => "invalid cgroup entry"
  | .hierarchyId => "invalid hierarchy id in cgroup entry"
  | .emptyName => "empty subsystem name in cgroup entry"

/-- The wording of a record error. -/
def RecordError.message : RecordError → String
  | .cannotOpen path fault => s!"io error: failed to open {path.toString}: {fault.message}"
  | .cannotRead path fault => s!"io error: failed to read {path.toString}: {fault.message}"
  | .malformed fault line => s!"{fault.message}: {Text.quoted line}"

namespace Record

/-- The entry on one line of a record, nothing for a blank line. -/
def entryOnLine (source : Path) (line : List UInt8) : Except RecordError (Option Entry) :=
  match Text.decode? line with
  | none => .error (.cannotRead source .notUtf8)
  | some text =>
    if Text.trim text = [] then .ok none
    else match Entry.parse (Text.trim text) with
      | .error fault => .error (.malformed fault (Text.trim text))
      | .ok entry => .ok (some entry)

/-- The entries of a stream that comes from `source`, or its first offence. -/
def entries (source : Path) (bytes : List UInt8) : Except RecordError (List Entry) := do
  let entries ← (Text.lines bytes).mapM (entryOnLine source)
  return entries.filterMap id

/-- Reads a record from a stream that comes from `source`. -/
def read (source : Path) (bytes : List UInt8) : Except RecordError Record :=
  return ofEntries (← entries source bytes)

/-- Reads a record from a stream that comes from no file. -/
def ofBytes (bytes : List UInt8) : Except RecordError Record :=
  read .empty bytes

/-- Reads a record from a text. -/
def ofText (text : String) : Except RecordError Record :=
  ofBytes (Text.encode text.toList)

end Record

/-- Reads the record in a file of the host. -/
def Host.readRecord (h : Host) (path : Path) : Except RecordError Record := do
  let file ← (h.openFile path).mapError (.cannotOpen path)
  let bytes ← file.read.mapError (.cannotRead path)
  Record.read path bytes

end Cgroup
