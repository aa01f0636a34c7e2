import Cgroup.Path.Lemmas

/-!
# Joining paths and taking them apart

`join` reads its right side from its left: an absolute right side stands for itself. `joinBelow`
never leaves the left side's text, because it takes the root off an absolute right side first.
`parent?` goes one component back, `dropPrefix?` takes the components of another path off the
front. What both leave is a piece of the text itself, not a new spelling of its components.
-/

namespace Cgroup.Path

/-- The path `p` read from `base`. A slash is put between them unless `base` is empty or ends in
one, so that an empty `p` leaves a trailing slash. -/
def join (base p : Path) : Path :=
  if p.isAbsolute then p
  else if base.chars = [] ∨ base.chars.getLast? = some '/' then ⟨base.chars ++ p.chars⟩
  else ⟨base.chars ++ '/' :: p.chars⟩

/-! ## Pieces of a path -/

/-- The shortest beginning of a path that has the given components. -/
def beginning? (p : Path) (cs : List Component) : Option Path :=
  ((List.range (p.chars.length + 1)).map fun n => Path.mk (p.chars.take n)).find?
    (·.components = cs)

/-- The longest end of a path that has the given components. -/
def ending? (p : Path) (cs : List Component) : Option Path :=
  ((List.range (p.chars.length + 1)).map fun n => Path.mk (p.chars.drop n)).find?
    (·.components = cs)

/-- The path one component back: the shortest beginning of the text with all components but the
last. The empty path and the root have none. -/
def parent? (p : Path) : Option Path :=
  match p.components.getLast? with
  | none | some .root => none
  | some _ => p.beginning? p.components.dropLast

/-- The path behind `base`, if the components of `base` are the first ones of `p`. Slashes and
dots at its end that do not count are left out. -/
def dropPrefix? (p base : Path) : Option Path := do
  let below ← base.components.isPrefixOf? p.components
  let rest ← p.ending? below
  rest.beginning? below

/-- Why a path could not be joined below another: it is absolute and does not begin at the root. -/
structure JoinError where
  /-- The path on the right side. -/
  path : Path
  deriving DecidableEq, Repr

/-- The wording of a join error. -/
def JoinError.message (error : JoinError) : String :=
  s!"failed to strip prefix from {error.path.toString}: prefix not found"

/-- The path `p` read from `base` as if `base` were the root. -/
def joinBelow (base p : Path) : Except JoinError Path :=
  if p.isAbsolute then
    match p.dropPrefix? root with
    | none => .error ⟨p⟩
    | some rest => .ok (base.join rest)
  else .ok (base.join p)

/-! ## Components -/

/-- A relative path adds its segments to the components that it is read from. -/
theorem components_join {base p : Path} (hbase : base.chars ≠ []) (hp : p.isAbsolute = false) :
    (base.join p).components = base.components ++ segments p.chars := by
  simp only [join, hp, hbase, false_or, Bool.false_eq_true, if_false]
  split
  · rename_i hlast
    obtain ⟨s, hs⟩ := List.getLast?_eq_some_iff.1 hlast
    have hlead : lead (s ++ '/' :: p.chars) = lead (s ++ ['/']) := by
      cases s with
      | nil => rfl
      | cons c s => rw [lead_append_slash (by simp), lead_append_slash (by simp)]
    simp only [components, hs, List.append_assoc, List.singleton_append, hlead, segments_append,
      segments_nil, List.append_nil]
  · simp only [components, lead_append_slash hbase, segments_append, List.append_assoc]

end Cgroup.Path
