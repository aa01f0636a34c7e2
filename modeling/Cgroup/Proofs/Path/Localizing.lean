import Cgroup.Proofs.Path.Cleaning

/-!
# Localised paths as walks

What a mount shows of a path is decided by components alone: `localizeAt_eq_ofNames` says that a
localised path spells a walk over `shownComponents`, all components of the path unless it is below
the root of the mount, where those of the root are left out. `descend_ofNames` says that a suffix
goes on with a walk where it ended.
-/

namespace Cgroup.Path

/-! ## The components that a mount shows -/

/-- The components that the walk of a localised path goes over. -/
def shownComponents (top p : List Component) : List Component :=
  if p = top then top else (top.isPrefixOf? p).getD p

theorem shownComponents_self (top : List Component) : shownComponents top top = top :=
  if_pos rfl

/-- Below the root of a mount, the components of that root are not shown. -/
theorem shownComponents_append (top : List Component) {below : List Component}
    (hne : below ≠ []) : shownComponents top (top ++ below) = below := by
  have hnot : top ++ below ≠ top := fun h => hne (List.append_right_eq_self.1 h)
  rw [shownComponents, if_neg hnot, List.isPrefixOf?_eq_some_iff_append_eq.2 rfl, Option.getD_some]

theorem shownComponents_of_not_isPrefix {top p : List Component} (h : ¬ top <+: p) :
    shownComponents top p = p := by
  have hnot : p ≠ top := by
    rintro rfl
    exact h List.prefix_rfl
  have hnone : top.isPrefixOf? p = none := by
    rw [Option.eq_none_iff_forall_ne_some]
    intro below hbelow
    exact h ⟨below, List.isPrefixOf?_eq_some_iff_append_eq.1 hbelow⟩
  rw [shownComponents, if_neg hnot, hnone, Option.getD_none]

theorem mem_of_mem_shownComponents {top p : List Component} {c : Component}
    (h : c ∈ shownComponents top p) : c ∈ top ∨ c ∈ p := by
  unfold shownComponents at h
  split at h
  · exact Or.inl h
  · cases hbelow : top.isPrefixOf? p with
    | none => exact Or.inr (by simpa [hbelow] using h)
    | some below =>
      rw [hbelow, Option.getD_some] at h
      rw [← List.isPrefixOf?_eq_some_iff_append_eq.1 hbelow]
      exact Or.inr (List.mem_append_right top h)

theorem isName_of_mem_shown {top p : Path} {name : List Char}
    (h : name ∈ settle (shownComponents top.components p.components)) : IsName name := by
  refine isName_of_mem_walkFrom (by simp) (fun name hname => ?_) name h
  rcases mem_of_mem_shownComponents hname with hname | hname
  · exact isName_of_normal_mem_components hname
  · exact isName_of_normal_mem_components hname

/-- The walk that a mount shows of names below its root. Without a name, the root of the mount
has to be the root of the hierarchy. -/
theorem settle_shownComponents_below {top : List Component} {names : List (List Char)}
    (h : names ≠ [] ∨ top = [.root]) :
    settle (shownComponents top (top ++ names.map .normal)) = names := by
  by_cases hnil : names = []
  · have hroot : top = [.root] := h.resolve_left fun hne => hne hnil
    rw [hnil, List.map_nil, List.append_nil, shownComponents_self, hroot]
    rfl
  · have hne : names.map Component.normal ≠ [] := by simpa using hnil
    rw [shownComponents_append top hne, settle, walkFrom_map_normal, List.nil_append]

/-! ## Localised paths -/

/-- A localised path spells the walk over the components that the mount shows. -/
theorem localizeAt_eq_ofNames (top p : Path) :
    top.localizeAt p = ofNames (settle (shownComponents top.components p.components)) := by
  unfold localizeAt shownComponents
  by_cases heq : p.components = top.components
  · rw [if_pos (equiv_iff.2 heq), if_pos heq, clean_eq_ofNames]
  · rw [if_neg (fun h => heq (equiv_iff.1 h)), if_neg heq]
    cases hbelow : top.components.isPrefixOf? p.components with
    | none =>
      rw [dropPrefix?_eq_none hbelow]
      exact clean_eq_ofNames p
    | some below =>
      -- the piece of text that is left has other characters than `below` would be spelled with,
      -- but cleaning sees its components only
      have happend := List.isPrefixOf?_eq_some_iff_append_eq.1 hbelow
      obtain ⟨rest, hrest, hcs⟩ := exists_dropPrefix? happend.symm
      rw [hrest]
      show rest.clean = ofNames (settle below)
      rw [clean_eq_ofNames, hcs]

example : (Path.ofString "/docker/4a3b").localizeAt (.ofString "/docker/4a3bx/app") =
    .ofString "/docker/4a3bx/app" := by decide +kernel

/-- How a path is seen in a mount depends on components alone. -/
theorem localizeAt_eq_of_equiv {top top' p p' : Path} (ht : top ≈ top') (hp : p ≈ p') :
    top.localizeAt p = top'.localizeAt p' := by
  rw [localizeAt_eq_ofNames, localizeAt_eq_ofNames, equiv_iff.1 ht, equiv_iff.1 hp]

/-! ## Suffixes -/

theorem isName_of_mem_suffix {suffix : Option Path} {name : List Char}
    (h : .normal name ∈ suffix.elim [] components) : IsName name := by
  cases suffix with
  | none => cases h
  | some suffix => exact isName_of_normal_mem_components h

/-- A suffix goes on with the walk. It cannot fail, and an empty one has no components to walk
over. -/
theorem descend_ofNames {names : List (List Char)} (hnames : ∀ name ∈ names, IsName name)
    (suffix : Option Path) :
    (ofNames names).descend suffix =
      .ok (ofNames (walkFrom names (suffix.elim [] components))) := by
  cases suffix with
  | none => rfl
  | some suffix =>
    by_cases hempty : suffix = empty
    · subst hempty
      rfl
    · have hbase : (ofNames names).chars ≠ [] := by simp [ofNames]
      obtain ⟨q, hq, hcs⟩ := exists_joinBelow hbase suffix
      have hwalk : settle q.components = walkFrom names suffix.components := by
        calc settle q.components
            = walkFrom (settle (ofNames names).components) (segments suffix.chars) := by
              rw [hcs]
              exact walkFrom_append [] _ _
          _ = walkFrom names (segments suffix.chars) := by rw [settle_components_ofNames hnames]
          _ = walkFrom names suffix.components := (walkFrom_components names suffix).symm
      rw [descend, if_neg hempty, hq]
      show Except.ok q.clean = Except.ok (ofNames (walkFrom names suffix.components))
      rw [clean_eq_ofNames, hwalk]

end Cgroup.Path
