import Cgroup.Path.Join

/-!
# Clean paths

A path is cleaned by editing a text that starts as `/`: a name is joined to it, `..` takes it back
to its parent and does nothing at the root, all other components do nothing.

What the text spells at each moment is the walk over the same components from the root: a list of
names, where `..` leaves the last name. The names where the walk ends spell the clean path.

A mount shows a part of a hierarchy: the part below the mount's root. `localizeAt` rewrites a path
of the hierarchy to what it is called inside that part, and `descend` goes on from there.
-/

namespace Cgroup

/-- The clean path after one more component, given the text so far. -/
def Path.enter (cleaned : Path) : Component → Path
  | .normal name => cleaned.join ⟨name⟩
  | .up => cleaned.parent?.getD cleaned
  | .root | .here => cleaned

/-- Where a walk is after one more component, given the names that it has entered. -/
def Component.walk (names : List (List Char)) : Component → List (List Char)
  | .normal name => names ++ [name]
  | .up => names.dropLast
  | .root | .here => names

namespace Path

/-- The clean spelling of a path: absolute, without `.` and `..` and without a slash too many. -/
def clean (p : Path) : Path :=
  p.components.foldl enter root

/-- The names where a walk over components ends that starts below `names`. -/
def walkFrom (names : List (List Char)) (cs : List Component) : List (List Char) :=
  cs.foldl Component.walk names

/-- The names where a walk over components ends that starts at the root. -/
def settle (cs : List Component) : List (List Char) :=
  walkFrom [] cs

/-- The absolute path with the given names. -/
def ofNames (names : List (List Char)) : Path :=
  ⟨'/' :: ['/'].intercalate names⟩

/-- A clean path is decided by the components. -/
theorem clean_eq_of_equiv {p q : Path} (h : p ≈ q) : p.clean = q.clean := by
  rw [clean, clean, equiv_iff.1 h]

/-- A walk over two lists of components is one over the first and then over the second. -/
theorem walkFrom_append (names : List (List Char)) (cs ds : List Component) :
    walkFrom names (cs ++ ds) = walkFrom (walkFrom names cs) ds :=
  List.foldl_append

/-- A walk from names over the components of a path ends at names. -/
theorem isName_of_mem_walkFrom {names : List (List Char)} (h : ∀ name ∈ names, IsName name)
    {cs : List Component} (hcs : ∀ name, .normal name ∈ cs → IsName name) :
    ∀ name ∈ walkFrom names cs, IsName name := by
  induction cs generalizing names with
  | nil => exact h
  | cons c cs ih =>
    refine ih (fun name hname => ?_) fun name hname => hcs name (List.mem_cons_of_mem _ hname)
    cases c with
    | root | here => exact h name hname
    | up => exact h name (List.dropLast_subset names hname)
    | normal last =>
      rcases List.mem_append.1 hname with hname | hname
      · exact h name hname
      · exact List.mem_singleton.1 hname ▸ hcs last List.mem_cons_self

/-- A clean path consists of names. -/
theorem isName_of_mem_settle {name : List Char} {p : Path} (h : name ∈ settle p.components) :
    IsName name :=
  isName_of_mem_walkFrom (by simp) (fun _ => isName_of_normal_mem_components) name h

/-- The components of the path with given names are the root and those names. -/
theorem components_ofNames {names : List (List Char)} (h : ∀ name ∈ names, IsName name) :
    (ofNames names).components = .root :: names.map .normal := by
  rw [ofNames, components, segments_cons_slash, segments_intercalate h]
  rfl

/-! ## Paths seen through a mount -/

/-- A path of a hierarchy as seen in a mount that shows the hierarchy below `top`. The path of
`top` itself and a path elsewhere are only cleaned; one below `top` loses the components of
`top`. -/
def localizeAt (top p : Path) : Path :=
  if p ≈ top then top.clean
  else match p.dropPrefix? top with
    | some below => below.clean
    | none => p.clean

/-- A path with a suffix below it, cleaned. No suffix and an empty suffix leave the path alone. -/
def descend (base : Path) : Option Path → Except JoinError Path
  | none => .ok base
  | some suffix => if suffix = empty then .ok base else (base.joinBelow suffix).map clean

end Path
end Cgroup
