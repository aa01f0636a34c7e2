import Cgroup.Record.Basic
import Cgroup.Text.Cut
import Cgroup.Text.Numeral

/-!
# Entries of a record

A record is written with one entry to a line, `id:names:path`. The names are separated by commas;
an entry without names is the one of the version 2 hierarchy and has the id 0. All that follows
the second colon is the path.

`get?_add_hierarchy` says what an entry changes in a record.
-/

namespace Cgroup

/-- One line of a record. -/
inductive Entry where
  /-- The path in the version 2 hierarchy. -/
  | unified (path : Path)
  /-- The path in a version 1 hierarchy, with the hierarchy's id and subsystems. -/
  | hierarchy (id : UInt32) (names : List String) (path : Path)
  deriving DecidableEq, Repr

/-- What can be wrong with a line of a record. -/
inductive EntryFault where
  /-- The line has fewer than two colons. -/
  | fields
  /-- The id is no number of 32 bits. -/
  | hierarchyId
  /-- A name is empty, or there is none and the id is not 0. -/
  | emptyName
  deriving DecidableEq, Repr

namespace Entry

/-- Reads the names of an entry. -/
def ofNames (id : UInt32) (names : List Char) (path : Path) : Except EntryFault Entry :=
  if names = [] then
    if id.toNat = 0 then .ok (.unified path) else .error .emptyName
  else if (names.splitOn ',').any List.isEmpty then .error .emptyName
  else .ok (.hierarchy id ((names.splitOn ',').map String.ofList) path)

/-- Reads an entry. Of several faults the first in the order of `EntryFault` is reported. -/
def parse (line : List Char) : Except EntryFault Entry :=
  match Text.cut? ':' line with
  | none => .error .fields
  | some (id, rest) =>
    match Text.cut? ':' rest with
    | none => .error .fields
    | some (names, path) =>
      match Numeral.word32? id with
      | none => .error .hierarchyId
      | some id => ofNames id names ⟨path⟩

/-- Writes an entry. -/
def render : Entry → List Char
  | .unified path => '0' :: ':' :: ':' :: path.chars
  | .hierarchy id names path =>
    Numeral.digits id.toNat ++ ':' :: [','].intercalate (names.map String.toList) ++
      ':' :: path.chars

end Entry

namespace Record

/-- The record after one more entry, which counts more than what was recorded before. -/
def add (r : Record) : Entry → Record
  | .unified path => { r with unified := some path }
  | .hierarchy _ names path =>
    { r with subsystems := names.foldl (fun m name => m.insert name path) r.subsystems }

/-- The record that entries make, in their order. -/
def ofEntries (entries : List Entry) : Record :=
  entries.foldl add empty

/-- Recording one path for several names changes what is recorded for these names only. -/
theorem getElem?_foldl_insert (m : Std.ExtTreeMap String Path) (names : List String) (path : Path)
    (name : String) :
    (names.foldl (fun m name => m.insert name path) m)[name]? =
      if name ∈ names then some path else m[name]? := by
  induction names generalizing m with
  | nil => simp
  | cons first names ih =>
    rw [List.foldl_cons, ih, Std.ExtTreeMap.getElem?_insert]
    by_cases hname : name ∈ names
    · simp [hname]
    · by_cases hfirst : name = first
      · simp [hfirst]
      · have hne : compare first name ≠ .eq := fun h => hfirst (Std.compare_eq_iff_eq.1 h).symm
        simp [hname, hfirst, hne]

/-- An entry of a hierarchy decides the path of its names and of no other. -/
theorem get?_add_hierarchy (r : Record) (id : UInt32) (names : List String) (path : Path)
    (name : String) :
    (r.add (.hierarchy id names path)).get? name =
      if name ∈ names then some path else r.get? name :=
  getElem?_foldl_insert r.subsystems names path name

/-- The entry of the version 2 hierarchy decides no path of a subsystem. -/
@[simp] theorem get?_add_unified (r : Record) (path : Path) (name : String) :
    (r.add (.unified path)).get? name = r.get? name := rfl

end Record
end Cgroup
