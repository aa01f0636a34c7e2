import Mathlib.Data.List.Induction
import Cgroup.Proofs.Path.Localizing

/-!
# Walks that go on

A suffix is walked from the names where the path in front of it ends, so that what becomes of it
is a matter of walks:

* `walkFrom_join`: a joined path is walked after what it is joined to;
* `walkFrom_of_staysBelow`: a walk leaves none of the names that it starts from if it never has
  entered fewer names than it has left. It ends below them then, where it would end below the root.
-/

namespace Cgroup

/-- Whether a component is a name. -/
def Component.isNormal : Component → Bool
  | .normal _ => true
  | .root | .here | .up => false

namespace Path

/-! ## Joined paths -/

/-- Joining a relative path adds its segments, also to the empty path. -/
theorem segments_join (base : Path) {p : Path} (hp : p.isAbsolute = false) :
    segments (base.join p).chars = segments base.chars ++ segments p.chars := by
  unfold join
  rw [if_neg (by simp [hp])]
  split
  · rename_i hend
    rcases hend with hnil | hslash
    · rw [hnil, List.nil_append, segments_nil, List.nil_append]
    · obtain ⟨s, hs⟩ := List.getLast?_eq_some_iff.1 hslash
      rw [hs, List.append_assoc, List.singleton_append, segments_append, segments_append,
        segments_nil, List.append_nil]
  · exact segments_append base.chars p.chars

/-- A relative path is walked from where the walk over the path ends that it is joined to. -/
theorem walkFrom_join (names : List (List Char)) (base : Path) {p : Path}
    (hp : p.isAbsolute = false) :
    walkFrom names (base.join p).components =
      walkFrom (walkFrom names base.components) p.components := by
  rw [walkFrom_components, segments_join base hp, walkFrom_append, ← walkFrom_components,
    ← walkFrom_components]

/-- A slash in front of a path does not move a walk. -/
theorem walkFrom_cons_slash (names : List (List Char)) (s : List Char) :
    walkFrom names (Path.mk ('/' :: s)).components = walkFrom names (Path.mk s).components := by
  rw [walkFrom_components, walkFrom_components, segments_cons_slash]

/-- Cleaning what is joined to a clean path goes on with its walk. -/
theorem clean_join_ofNames {names : List (List Char)} (hnames : ∀ name ∈ names, IsName name)
    {p : Path} (hp : p.isAbsolute = false) :
    ((ofNames names).join p).clean = ofNames (walkFrom names p.components) := by
  rw [clean_eq_ofNames, settle, walkFrom_join [] _ hp, ← settle, settle_components_ofNames hnames]

/-! ## Walks that stay below their start -/

variable {cs : List Component} {c : Component}

/-- No beginning of the components has more `..` than names. -/
def StaysBelow (cs : List Component) : Prop :=
  ∀ front, front <+: cs → front.count .up ≤ front.countP Component.isNormal

instance : Decidable (StaysBelow cs) :=
  decidable_of_iff (∀ front ∈ cs.inits, front.count .up ≤ front.countP Component.isNormal) <| by
    simp only [List.mem_inits, StaysBelow]

theorem StaysBelow.of_concat (h : StaysBelow (cs ++ [c])) : StaysBelow cs :=
  fun front hfront => h front (List.prefix_append_of_prefix hfront)

theorem staysBelow_of_up_not_mem (h : .up ∉ cs) : StaysBelow cs := by
  intro front hfront
  rw [List.count_eq_zero_of_not_mem fun hmem => h (hfront.subset hmem)]
  exact Nat.zero_le _

theorem walkFrom_concat (names : List (List Char)) (cs : List Component) (c : Component) :
    walkFrom names (cs ++ [c]) = c.walk (walkFrom names cs) :=
  List.foldl_concat ..

theorem settle_concat (cs : List Component) (c : Component) :
    settle (cs ++ [c]) = c.walk (settle cs) :=
  walkFrom_concat [] cs c

section

variable {more : List (List Char)} (h : c = .up → more ≠ [])
include h

/-- A step enters a name or leaves one, unless it is a `..` where no name is left. -/
theorem length_walk :
    (c.walk more).length + [c].count .up = more.length + [c].countP Component.isNormal := by
  cases c with
  | root | here => rfl
  | normal name => exact List.length_append
  | up =>
    have hpos : 0 < more.length := List.length_pos_iff.2 (h rfl)
    show more.dropLast.length + 1 = more.length
    rw [List.length_dropLast]
    omega

/-- Such a step is the same below any names. -/
theorem walk_append (names : List (List Char)) : c.walk (names ++ more) = names ++ c.walk more := by
  cases c with
  | root | here => rfl
  | normal name => exact List.append_assoc names more [name]
  | up => exact List.dropLast_append_of_ne_nil (h rfl)

end

/-- If each `..` so far has left a name, there is one left for a further `..` of a walk that stays
below its start. -/
theorem StaysBelow.settle_ne_nil (h : StaysBelow (cs ++ [c]))
    (hlen : (settle cs).length + cs.count .up = cs.countP Component.isNormal) :
    c = .up → settle cs ≠ [] := by
  rintro rfl hnil
  have hall := h (cs ++ [.up]) List.prefix_rfl
  have hup : [Component.up].countP Component.isNormal = 0 := rfl
  rw [List.count_append, List.countP_append, List.count_singleton_self, hup] at hall
  rw [hnil, List.length_nil] at hlen
  omega

/-- A walk that stays below its start leaves a name at each `..`. -/
theorem StaysBelow.length_settle (h : StaysBelow cs) :
    (settle cs).length + cs.count .up = cs.countP Component.isNormal := by
  induction cs using List.reverseRecOn with
  | nil => rfl
  | append_singleton cs c ih =>
    have hlen := ih h.of_concat
    have hstep := length_walk (h.settle_ne_nil hlen)
    rw [settle_concat, List.count_append, List.countP_append]
    omega

/-- A walk that stays below its start ends below it as it ends below the root. -/
theorem walkFrom_of_staysBelow (h : StaysBelow cs) (names : List (List Char)) :
    walkFrom names cs = names ++ settle cs := by
  induction cs using List.reverseRecOn with
  | nil => exact (List.append_nil names).symm
  | append_singleton cs c ih =>
    -- the last step finds a name to leave below the start, as it does below the root
    have hne := h.settle_ne_nil h.of_concat.length_settle
    rw [walkFrom_concat, settle_concat, ih h.of_concat, walk_append hne]

/-- Without `..`, a walk leaves no name that it starts from. -/
theorem settle_append_of_up_not_mem (cs : List Component) {ds : List Component} (h : .up ∉ ds) :
    settle (cs ++ ds) = settle cs ++ settle ds :=
  (walkFrom_append [] cs ds).trans (walkFrom_of_staysBelow (staysBelow_of_up_not_mem h) _)

end Path
end Cgroup
