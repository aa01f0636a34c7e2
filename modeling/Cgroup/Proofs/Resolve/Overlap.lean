import Cgroup.Proofs.Path.Descending
import Cgroup.Proofs.Resolve.Containment

/-!
# Cgroups that a mount does not tell apart

A mount that shows a part of a hierarchy has two kinds of names for cgroups: those below its root
lose the components of that root, all others keep theirs. The two kinds overlap, so that distinct
cgroups of one hierarchy may be resolved to one path and placed in one directory. `Overlap` says of
two recorded paths when that happens, and `settle_shownComponents_eq_iff` that it happens at no other
time. It never does in a mount that shows the whole hierarchy (`not_overlap_of_settle_top`), nor
to two cgroups below the root of the mount that are named without `..`
(`not_overlap_of_up_not_mem`).
-/

namespace Cgroup

namespace Path

variable {top path path' : List Component}

/-! ## Overlapping paths -/

/-- The components of a path are those of `top` and then some more. -/
def IsBelow (top path : List Component) : Prop :=
  ∃ below, below ≠ [] ∧ path = top ++ below

/-- A path below `top` has the name that a path elsewhere has: the walk from `top` to the one ends
at the same names as the walk to the other from the root of the hierarchy. -/
def Shadows (top path path' : List Component) : Prop :=
  (∃ below, below ≠ [] ∧ path = top ++ below ∧ settle below = settle path') ∧ ¬ IsBelow top path'

/-- Two paths overlap in a mount with the root `top` if one of them is below it and shadows the
other, or if both are below it and the walks to them from there end at the same names. -/
def Overlap (top path path' : List Component) : Prop :=
  Shadows top path path' ∨ Shadows top path' path ∨
    ∃ below below', below ≠ [] ∧ below' ≠ [] ∧ path = top ++ below ∧ path' = top ++ below' ∧
      settle below = settle below'

/-- All components are shown of a path that is not below the root of the mount, that root itself
included. -/
theorem shownComponents_of_not_isBelow (h : ¬ IsBelow top path) :
    shownComponents top path = path := by
  by_cases hprefix : top <+: path
  · obtain ⟨below, rfl⟩ := hprefix
    have hnil : below = [] := by
      by_contra hne
      exact h ⟨below, hne, rfl⟩
    rw [hnil, List.append_nil, shownComponents_self]
  · exact shownComponents_of_not_isPrefix hprefix

theorem shadows_append_iff {below : List Component} (hne : below ≠ []) :
    Shadows top (top ++ below) path' ↔ settle below = settle path' ∧ ¬ IsBelow top path' := by
  constructor
  · rintro ⟨⟨below', -, heq, hsettle⟩, hnot⟩
    obtain rfl := List.append_cancel_left heq
    exact ⟨hsettle, hnot⟩
  · rintro ⟨hsettle, hnot⟩
    exact ⟨⟨below, hne, rfl, hsettle⟩, hnot⟩

theorem not_shadows_of_not_isBelow (h : ¬ IsBelow top path) : ¬ Shadows top path path' := by
  rintro ⟨⟨below, hne, heq, -⟩, -⟩
  exact h ⟨below, hne, heq⟩

/-- A mount shows two cgroups under one name exactly if their paths overlap. -/
theorem settle_shownComponents_eq_iff (hdistinct : settle path ≠ settle path') :
    settle (shownComponents top path) = settle (shownComponents top path') ↔
      Overlap top path path' := by
  have hself : ∀ {below : List Component}, below ≠ [] → IsBelow top (top ++ below) :=
    fun hne => ⟨_, hne, rfl⟩
  by_cases hbelow : IsBelow top path
  · obtain ⟨below, hne, rfl⟩ := hbelow
    rw [shownComponents_append top hne, Overlap, shadows_append_iff hne]
    by_cases hbelow' : IsBelow top path'
    · -- neither shadows the other, only the walks from the root of the mount count
      obtain ⟨below', hne', rfl⟩ := hbelow'
      rw [shownComponents_append top hne', shadows_append_iff hne']
      constructor
      · intro heq
        exact .inr (.inr ⟨below, below', hne, hne', rfl, rfl, heq⟩)
      · rintro (⟨-, hnot⟩ | ⟨-, hnot⟩ | ⟨cs, cs', -, -, hcs, hcs', heq⟩)
        · exact absurd (hself hne') hnot
        · exact absurd (hself hne) hnot
        · rwa [List.append_cancel_left hcs, List.append_cancel_left hcs']
    · rw [shownComponents_of_not_isBelow hbelow']
      constructor
      · intro heq
        exact .inl ⟨heq, hbelow'⟩
      · rintro (⟨heq, -⟩ | hshadows | ⟨-, cs', -, hcs', -, hpath', -⟩)
        · exact heq
        · exact absurd hshadows (not_shadows_of_not_isBelow hbelow')
        · exact absurd ⟨cs', hcs', hpath'⟩ hbelow'
  · rw [shownComponents_of_not_isBelow hbelow, Overlap]
    by_cases hbelow' : IsBelow top path'
    · obtain ⟨below', hne', rfl⟩ := hbelow'
      rw [shownComponents_append top hne', shadows_append_iff hne']
      constructor
      · intro heq
        exact .inr (.inl ⟨heq.symm, hbelow⟩)
      · rintro (hshadows | ⟨heq, -⟩ | ⟨cs, -, hcs, -, hpath, -⟩)
        · exact absurd hshadows (not_shadows_of_not_isBelow hbelow)
        · exact heq.symm
        · exact absurd ⟨cs, hcs, hpath⟩ hbelow
    · -- both keep all their components, which differ
      rw [shownComponents_of_not_isBelow hbelow']
      constructor
      · intro heq
        exact absurd heq hdistinct
      · rintro (hshadows | hshadows | ⟨cs, -, hcs, -, hpath, -⟩)
        · exact absurd hshadows (not_shadows_of_not_isBelow hbelow)
        · exact absurd hshadows (not_shadows_of_not_isBelow hbelow')
        · exact absurd ⟨cs, hcs, hpath⟩ hbelow

/-! ## Paths that do not overlap -/

theorem clean_root : root.clean = root := clean_ofNames (List.forall_mem_nil IsName)

/-- Nothing overlaps in a mount that shows a hierarchy from its root. -/
theorem not_overlap_of_settle_top (htop : settle top = [])
    (hdistinct : settle path ≠ settle path') : ¬ Overlap top path path' := by
  -- without a name in `top`, all walks start from the root of the hierarchy
  have hwalk : ∀ below, settle (top ++ below) = settle below := by
    intro below
    rw [settle, walkFrom_append, ← settle, htop]
    rfl
  rintro (⟨⟨below, -, rfl, heq⟩, -⟩ | ⟨⟨below, -, rfl, heq⟩, -⟩ |
    ⟨below, below', -, -, rfl, rfl, heq⟩)
  · exact hdistinct ((hwalk below).trans heq)
  · exact hdistinct (heq.symm.trans (hwalk below).symm)
  · exact hdistinct ((hwalk below).trans (heq.trans (hwalk below').symm))

/-- Two paths below the root of a mount do not overlap if no `..` leads back from there. -/
theorem not_overlap_of_up_not_mem {below below' : List Component} (hne : below ≠ [])
    (hne' : below' ≠ []) (hup : .up ∉ below) (hup' : .up ∉ below')
    (hdistinct : settle (top ++ below) ≠ settle (top ++ below')) :
    ¬ Overlap top (top ++ below) (top ++ below') := by
  rintro (⟨-, hnot⟩ | ⟨-, hnot⟩ | ⟨cs, cs', -, -, hcs, hcs', heq⟩)
  · exact hnot ⟨below', hne', rfl⟩
  · exact hnot ⟨below, hne, rfl⟩
  · obtain rfl := List.append_cancel_left hcs
    obtain rfl := List.append_cancel_left hcs'
    rw [settle_append_of_up_not_mem top hup, settle_append_of_up_not_mem top hup', heq] at hdistinct
    exact hdistinct rfl

end Path

open Cgroup.Path

/-! ## Resolved paths -/

namespace Record

variable {r : Record} {t : Table} {subsystem : String} {path top p : Path}

/-- Without a suffix, a recorded subsystem that is mounted resolves to what its mount shows. -/
theorem eq_ofNames_of_resolve (hpath : r.get? subsystem = some path)
    (htop : t.destination? subsystem = some top) (hp : r.resolve none t subsystem = .ok p) :
    p = ofNames (settle (shownComponents top.components path.components)) := by
  have hanswering : r.answering t subsystem = subsystem :=
    if_pos ⟨by rw [hpath, Option.isSome_some], by rw [htop, Option.isSome_some]⟩
  obtain ⟨-, path', top', hpath', htop', rfl⟩ := resolve_eq_ok_iff.1 hp
  rw [hanswering] at hpath' htop'
  obtain rfl := Option.some.inj (hpath.symm.trans hpath')
  obtain rfl := Option.some.inj (htop.symm.trans htop')
  rfl

end Record

namespace Strategy

variable {h h' : Host} {r r' : Record} {t : Table} {subsystem : String} {top path path' p p' : Path}

/-- Two cgroups of one hierarchy are resolved to one path exactly if their recorded paths overlap in
the mount, and are placed in one directory exactly then. They never are if the mount shows the
hierarchy from its root, nor if both are below the root of the mount and no `..` leads back from
there. -/
theorem resolveIn_eq_iff_overlap (htop : t.destination? subsystem = some top)
    (hpath : r.get? subsystem = some path) (hpath' : r'.get? subsystem = some path')
    (hdistinct : path.clean ≠ path'.clean)
    (hp : (existing r none).resolveIn h t subsystem = .ok p)
    (hp' : (existing r' none).resolveIn h' t subsystem = .ok p') :
    (p = p' ↔ Overlap top.components path.components path'.components) ∧
    (top.clean = .root → p ≠ p') ∧
    (∀ below below', below ≠ [] → below' ≠ [] → path.components = top.components ++ below →
      path'.components = top.components ++ below' → .up ∉ below → .up ∉ below' → p ≠ p') ∧
    ∃ host host', t.hostPath subsystem p = .ok host ∧ t.hostPath subsystem p' = .ok host' ∧
      (host ≈ host' ↔ p = p') := by
  have hsettle : settle path.components ≠ settle path'.components := mt clean_eq_clean_iff.2 hdistinct
  have heq : p = ofNames (settle (shownComponents top.components path.components)) :=
    Record.eq_ofNames_of_resolve hpath htop hp
  have heq' : p' = ofNames (settle (shownComponents top.components path'.components)) :=
    Record.eq_ofNames_of_resolve hpath' htop hp'
  -- both are clean, so that they are one path if their walks end at the same names
  have hclean : p.clean = p := by rw [heq, clean_ofNames fun _ => isName_of_mem_shown]
  have hclean' : p'.clean = p' := by rw [heq', clean_ofNames fun _ => isName_of_mem_shown]
  have hiff : p = p' ↔ Overlap top.components path.components path'.components := by
    rw [← settle_shownComponents_eq_iff hsettle, ← hclean, ← hclean', clean_eq_clean_iff, heq, heq',
      settle_components_ofNames fun _ => isName_of_mem_shown,
      settle_components_ofNames fun _ => isName_of_mem_shown]
  refine ⟨hiff, fun hroot => ?root, fun below below' hne hne' hcs hcs' hup hup' => ?below, ?hosts⟩
  case root =>
    rw [ne_eq, hiff]
    have hnil : settle top.components = settle Path.root.components :=
      clean_eq_clean_iff.1 (hroot.trans clean_root.symm)
    exact not_overlap_of_settle_top hnil hsettle
  case below =>
    rw [ne_eq, hiff, hcs, hcs']
    rw [hcs, hcs'] at hsettle
    exact not_overlap_of_up_not_mem hne hne' hup hup' hsettle
  case hosts =>
    obtain ⟨m, hm, -⟩ := Option.map_eq_some_iff.1 htop
    have hplacing : t.placing? subsystem = some m := by rw [Table.placing?, hm, Option.some_or]
    obtain ⟨host, hhost, -⟩ := Table.exists_hostPath hplacing p
    obtain ⟨host', hhost', -⟩ := Table.exists_hostPath hplacing p'
    refine ⟨host, host', hhost, hhost', ?_⟩
    rw [Table.hostPath_equiv_iff hplacing hhost hhost', hclean, hclean']

/-- A cgroup of a container, and one of the host that has the name of the first inside the
container. -/
theorem resolveIn_eq_iff_overlap_outside :
    let r : Record := .ofList [("memory", .ofString "/docker/4a3b//app")]
    let r' : Record := .ofList [("memory", .ofString "/app")]
    let t : Table :=
      ⟨[⟨.ofString "/sys/fs/cgroup/memory", .ofString "/docker/4a3b", ["memory"]⟩], none⟩
    let top := (Path.ofString "/docker/4a3b").components
    let path := (Path.ofString "/docker/4a3b//app").components
    let path' := (Path.ofString "/app").components
    let p : Path := .ofString "/app"
    let p' : Path := .ofString "/app"
    t.destination? "memory" = some (.ofString "/docker/4a3b") ∧
      r.get? "memory" = some (.ofString "/docker/4a3b//app") ∧
      r'.get? "memory" = some (.ofString "/app") ∧
      (Path.ofString "/docker/4a3b//app").clean ≠ (Path.ofString "/app").clean ∧
      (existing r none).resolveIn .bare t "memory" = .ok p ∧
      (existing r' none).resolveIn .bare t "memory" = .ok p' ∧
      (p = p' ↔ Overlap top path path') ∧
      ((Path.ofString "/docker/4a3b").clean = .root → p ≠ p') ∧
      (∀ below below', below ≠ [] → below' ≠ [] → path = top ++ below → path' = top ++ below' →
        .up ∉ below → .up ∉ below' → p ≠ p') ∧
      ∃ host host', t.hostPath "memory" p = .ok host ∧ t.hostPath "memory" p' = .ok host' ∧
        (host ≈ host' ↔ p = p') := by
  intro r r' t top path path' p p'
  have htop : t.destination? "memory" = some (.ofString "/docker/4a3b") := by decide +kernel
  have hpath : r.get? "memory" = some (.ofString "/docker/4a3b//app") := by decide +kernel
  have hpath' : r'.get? "memory" = some (.ofString "/app") := by decide +kernel
  have hdistinct : (Path.ofString "/docker/4a3b//app").clean ≠ (Path.ofString "/app").clean := by
    decide +kernel
  have hp : (existing r none).resolveIn .bare t "memory" = .ok (.ofString "/app") := by
    decide +kernel
  have hp' : (existing r' none).resolveIn .bare t "memory" = .ok (.ofString "/app") := by
    decide +kernel
  exact ⟨htop, hpath, hpath', hdistinct, hp, hp',
    resolveIn_eq_iff_overlap htop hpath hpath' hdistinct hp hp'⟩

/-- A container and a container inside of it that goes by the same name. The outer one is at the
root of the mount, which is shown by all of its components, the inner one is below it: both are
resolved to one path and placed in one directory. -/
theorem resolveIn_eq_of_nested_container :
    let r : Record := .ofList [("memory", .ofString "/docker/4a3b")]
    let r' : Record := .ofList [("memory", .ofString "/docker/4a3b/docker/4a3b")]
    let t : Table :=
      ⟨[⟨.ofString "/sys/fs/cgroup/memory", .ofString "/docker/4a3b", ["memory"]⟩], none⟩
    (t.find? "memory").isSome ∧ r.get? "memory" = some (.ofString "/docker/4a3b") ∧
      r'.get? "memory" = some (.ofString "/docker/4a3b/docker/4a3b") ∧
      (Path.ofString "/docker/4a3b").clean ≠ (Path.ofString "/docker/4a3b/docker/4a3b").clean ∧
      (existing r none).resolveIn .bare t "memory" = .ok (.ofString "/docker/4a3b") ∧
      (existing r' none).resolveIn .bare t "memory" = .ok (.ofString "/docker/4a3b") ∧
      t.hostPath "memory" (.ofString "/docker/4a3b") =
        .ok (.ofString "/sys/fs/cgroup/memory/docker/4a3b") := by
  intro r r' t
  have hdistinct : (Path.ofString "/docker/4a3b").clean ≠
      (Path.ofString "/docker/4a3b/docker/4a3b").clean := by decide +kernel
  exact ⟨by decide +kernel, by decide +kernel, by decide +kernel, hdistinct, by decide +kernel,
    by decide +kernel, by decide +kernel⟩

end Strategy
end Cgroup
