import Cgroup.Proofs.Resolve.Placing

/-!
# Placed paths stay below their mount

A cgroup path may be any text: relative, empty, or full of `..`. `hostPath_eq_error_iff` says when
it has no place on the host, which the path has no part in, and `components_of_hostPath` where its
place is: the components of the mount point, and then names alone. From there `hostPath_contained`
says that no path leads out of the mount point, and that two paths have one place exactly when they
have one clean spelling.
-/

namespace Cgroup.Table

open Cgroup.Path

variable {t : Table} {subsystem : String}

/-! ## Paths without a place -/

theorem isEmpty_iff : t.isEmpty = true ↔ t.mounts = [] := by
  rw [isEmpty, List.isEmpty_iff]

theorem placing?_eq_none_iff :
    t.placing? subsystem = none ↔
      t.mountPoint? subsystem = none ∧ t.mountPoint? (named subsystem) = none := by
  rw [placing?, Option.or_eq_none_iff, mountPoint?, mountPoint?, Option.map_eq_none_iff,
    Option.map_eq_none_iff]

/-- Placing fails for want of any mount, or else for want of one for the subsystem. The path does
not count. -/
theorem hostPath_eq_error_iff {p : Path} {error : ResolutionError} :
    t.hostPath subsystem p = .error error ↔
      (t.mounts = [] ∧ error = .noneMounted) ∨
      (t.mounts ≠ [] ∧ t.placing? subsystem = none ∧ error = .noDestination subsystem) := by
  by_cases hempty : t.mounts = []
  · rw [hostPath, if_pos (isEmpty_iff.2 hempty)]
    simp [hempty, eq_comm]
  · cases hplacing : t.placing? subsystem with
    | none =>
      obtain ⟨hown, hnamed⟩ := placing?_eq_none_iff.1 hplacing
      rw [hostPath, if_neg (mt isEmpty_iff.1 hempty), hown, hnamed]
      simp [hempty, eq_comm]
    | some m =>
      obtain ⟨host, hhost, -⟩ := exists_hostPath hplacing p
      simp [hhost, hempty]

/-! ## Paths with a place -/

/-- The mount point below which the paths of a subsystem are placed is its own one, or that of the
named hierarchy if it has none. -/
theorem exists_placing?_of_mountPoint? {mountPoint : Path}
    (h : t.mountPoint? subsystem = some mountPoint ∨
      t.mountPoint? subsystem = none ∧ t.mountPoint? (named subsystem) = some mountPoint) :
    ∃ m, t.placing? subsystem = some m ∧ m.mountPoint = mountPoint := by
  rw [← Option.map_eq_some_iff, placing?, Option.map_or]
  exact Option.or_eq_some_iff.2 h

/-- A placed path has the components of the mount point and then the names of its clean spelling. -/
theorem components_of_hostPath {m : Mount} (hm : t.placing? subsystem = some m) {p host : Path}
    (hhost : t.hostPath subsystem p = .ok host) :
    host.components = m.mountPoint.components ++ (settle p.components).map .normal := by
  obtain ⟨host', hhost', -, hcs⟩ := exists_hostPath hm p
  obtain rfl := Except.ok.inj (hhost.symm.trans hhost')
  exact hcs

/-- Two paths have one place below a mount exactly when they have one clean spelling. -/
theorem hostPath_equiv_iff {m : Mount} (hm : t.placing? subsystem = some m) {p q host host' : Path}
    (hp : t.hostPath subsystem p = .ok host) (hq : t.hostPath subsystem q = .ok host') :
    host ≈ host' ↔ p.clean = q.clean := by
  rw [equiv_iff, components_of_hostPath hm hp, components_of_hostPath hm hq,
    List.append_cancel_left_eq, clean_eq_clean_iff]
  exact (List.map_injective_iff.2 fun _ _ => Component.normal.inj).eq_iff

/-- Where a path is placed. Without a mount at all, or without one for the subsystem and for the
named hierarchy of that name, no path is. With one, every path is placed below its mount point, by
the names of its clean spelling and nothing else, so that even a walk along the placed path ends
below the mount point; and two paths have one place exactly when they have one clean spelling. -/
theorem hostPath_contained (t : Table) (subsystem : String) :
    (∀ path, t.hostPath subsystem path = .error .noneMounted ↔ t.mounts = []) ∧
    (∀ path, t.hostPath subsystem path = .error (.noDestination subsystem) ↔
      t.mounts ≠ [] ∧ t.mountPoint? subsystem = none ∧
        t.mountPoint? (named subsystem) = none) ∧
    ∀ mountPoint, t.mountPoint? subsystem = some mountPoint ∨
        t.mountPoint? subsystem = none ∧ t.mountPoint? (named subsystem) = some mountPoint →
      (∀ path, ∃ host names, t.hostPath subsystem path = .ok host ∧
        path.clean.components = .root :: names.map .normal ∧ (∀ name ∈ names, IsName name) ∧
        host.components = mountPoint.components ++ names.map .normal ∧
        settle host.components = settle mountPoint.components ++ names) ∧
      ∀ path path' host host', t.hostPath subsystem path = .ok host →
        t.hostPath subsystem path' = .ok host' →
          (host ≈ host' ↔ path.clean = path'.clean) := by
  refine ⟨fun path => ?_, fun path => ?_, fun mountPoint hpoint => ?_⟩
  · rw [hostPath_eq_error_iff]
    simp
  · rw [hostPath_eq_error_iff, placing?_eq_none_iff]
    simp
  · obtain ⟨m, hm, rfl⟩ := exists_placing?_of_mountPoint? hpoint
    refine ⟨fun path => ?_, fun path path' host host' => hostPath_equiv_iff hm⟩
    obtain ⟨host, hhost, -, hcs⟩ := exists_hostPath hm path
    refine ⟨host, settle path.components, hhost, components_clean path,
      fun _ => isName_of_mem_settle, hcs, ?_⟩
    rw [hcs, settle, walkFrom_append, walkFrom_map_normal]
    rfl

example :
    let t : Table := ⟨[⟨.ofString "../cgroup/", .root, ["name=jobs"]⟩], none⟩
    t.hostPath "jobs" (.ofString "a/../../../etc") = .ok (.ofString "../cgroup/etc") := by cbv

end Cgroup.Table
