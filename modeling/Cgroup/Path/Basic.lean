/-!
# Paths

A path is a text; what it names is decided by its components. Repeated and trailing slashes and
inner `.` segments spell the same path, a leading slash, a leading `.` and every `..` count.
`p ≈ q` compares components, `p = q` compares texts.
-/

namespace Cgroup

/-- A path, kept exactly as it is spelled. -/
structure Path where
  /-- The characters of the path. -/
  chars : List Char
  deriving DecidableEq, Repr

/-- One step of a path. -/
inductive Component where
  /-- The leading slash of an absolute path. -/
  | root
  /-- A leading `.`. -/
  | here
  /-- A `..`. -/
  | up
  /-- The name of a file or directory. -/
  | normal (name : List Char)
  deriving DecidableEq, Repr

namespace Path

/-- The path that a text spells. -/
def ofString (s : String) : Path := ⟨s.toList⟩

/-- The spelling of a path. -/
def toString (p : Path) : String := String.ofList p.chars

/-- The empty path. -/
def empty : Path := ⟨[]⟩

/-- The path `/`. -/
def root : Path := ⟨['/']⟩

/-- An absolute path begins with a slash. -/
def isAbsolute (p : Path) : Bool := p.chars.head? = some '/'

/-- The component that a text between two slashes stands for, if it counts. -/
def ofSegment? (segment : List Char) : Option Component :=
  if segment = [] ∨ segment = ['.'] then none
  else if segment = ['.', '.'] then some .up
  else some (.normal segment)

/-- The components of a text apart from what its beginning means. -/
def segments (s : List Char) : List Component :=
  (s.splitOn '/').filterMap ofSegment?

/-- What the beginning of a text means: a leading slash is the root, a leading `.` counts. -/
def lead : List Char → List Component
  | '/' :: _ => [.root]
  | ['.'] => [.here]
  | '.' :: '/' :: _ => [.here]
  | _ => []

/-- The components of a path. -/
def components (p : Path) : List Component :=
  lead p.chars ++ segments p.chars

/-- A name can stand between two slashes: it is not empty, holds no slash and is neither `.` nor
`..`. -/
def IsName (name : List Char) : Prop :=
  name ≠ [] ∧ '/' ∉ name ∧ name ≠ ['.'] ∧ name ≠ ['.', '.']

/-- Two paths are equivalent if they have the same components. -/
instance : Setoid Path where
  r p q := p.components = q.components
  iseqv := ⟨fun _ => rfl, fun h => h.symm, fun h h' => h.trans h'⟩

instance (p q : Path) : Decidable (p ≈ q) :=
  inferInstanceAs (Decidable (p.components = q.components))

/-- Equivalence of paths is equality of their components. -/
theorem equiv_iff {p q : Path} : p ≈ q ↔ p.components = q.components := Iff.rfl

@[simp] theorem ofString_toString (p : Path) : ofString p.toString = p := by
  simp [ofString, toString]

@[simp] theorem toString_ofString (s : String) : (ofString s).toString = s := by
  simp [ofString, toString]

end Path
end Cgroup
