import Cgroup.Proofs.Mount.Reading
import Cgroup.Proofs.Path.Below
import Cgroup.Proofs.Resolve.Live

/-!
# The directory of the version 1 hierarchies

A host that has a mount table has the hierarchies in the directory above the first mount point. A
mount point that is read from text is never empty, so that there is such a directory unless the
first hierarchy is mounted on the root (`Host.v1MountPoint_of_first`). By `Host.v1MountPoint_outcome`
that case has the answer of a host without hierarchies.
-/

namespace Cgroup

/-! ## The first mount point -/

/-- The directory that a table tells is the one above its first version 1 mount point. -/
theorem Table.v1Root?_ofInfos (infos : List MountInfo) :
    (ofInfos infos).v1Root? =
      (infos.find? (·.fsType = Mount.fsType)).bind (·.mountPoint.parent?) := by
  rw [v1Root?, ofInfos, List.head?_map, List.head?_filter, Option.bind_map]
  rfl

/-- The first version 1 mount info is one. -/
theorem MountInfo.mem_of_first {infos : List MountInfo} {first : MountInfo}
    (h : infos.find? (·.fsType = "cgroup") = some first) :
    first ∈ infos ∧ first.fsType = Mount.fsType := by
  have htype := List.find?_some h
  exact ⟨List.mem_of_find?_eq_some h, of_decide_eq_true htype⟩

/-- No mount point in a text is empty. -/
theorem MountInfo.mountPoint_ne_nil_of_read {bytes : List UInt8} {infos : List MountInfo}
    {info : MountInfo} (h : read bytes = .ok infos) (hinfo : info ∈ infos) :
    info.mountPoint.chars ≠ [] := by
  obtain ⟨line, -, hline⟩ := (mem_of_read h).1 hinfo
  obtain ⟨f, ⟨-, text, -, hwords⟩, rfl⟩ := ofLine_eq_ok_iff.1 hline
  have hmem : f.mountPoint ∈ Text.words text := by
    rw [hwords, Fields.words, Fields.back]
    exact List.mem_append_right _ (List.mem_cons_of_mem _ List.mem_cons_self)
  exact Text.ne_nil_of_mem_words hmem

namespace Host

variable {h : Host} {t : Table}

/-- What a host has a table of, and which version 1 mount is the first in it. -/
theorem exists_first_of_mountTable (ht : h.mountTable = .ok t) :
    ∃ infos first, h.OpensSelf ∧ h.TellsInfos infos ∧ t = .ofInfos infos ∧
      infos.find? (·.fsType = "cgroup") = some first := by
  cases mountTable_eq_iff.1 ht with
  | @mounted infos hself hinfos hsome =>
    have hfirst : (infos.find? (·.fsType = "cgroup")).isSome := by
      rw [List.find?_isSome]
      simpa [Mount.fsType] using hsome
    obtain ⟨first, hfirst⟩ := Option.isSome_iff_exists.1 hfirst
    exact ⟨infos, first, hself, hinfos, rfl, hfirst⟩

theorem v1MountPoint_of_mountTable (ht : h.mountTable = .ok t) :
    h.v1MountPoint = t.v1Root?.elim (.error .noneMounted) .ok := by
  rw [v1MountPoint, ht]
  cases hroot : t.v1Root? <;> simp [hroot, bind, Except.bind, pure, Except.pure]

theorem v1MountPoint_of_mountTable_error {error : TableError} (ht : h.mountTable = .error error) :
    h.v1MountPoint = .error error := by
  rw [v1MountPoint, ht]
  rfl

/-! ## The directory above it -/

/-- The directory of the hierarchies is the parent of the first mount point, which there is unless
that is the root. -/
theorem v1MountPoint_of_first {infos : List MountInfo} {first : MountInfo}
    (hinfos : h.TellsInfos infos) (ht : h.mountTable = .ok (.ofInfos infos))
    (hfirst : infos.find? (·.fsType = "cgroup") = some first) :
    (first.mountPoint ≈ Path.root → h.v1MountPoint = .error .noneMounted) ∧
    (¬ first.mountPoint ≈ Path.root → ∃ q last, h.v1MountPoint = .ok q ∧
      first.mountPoint.parent? = some q ∧ first.mountPoint.components = q.components ++ [last] ∧
      q.chars <+: first.mountPoint.chars) := by
  have hpoint : h.v1MountPoint = first.mountPoint.parent?.elim (.error .noneMounted) .ok := by
    rw [v1MountPoint_of_mountTable ht, Table.v1Root?_ofInfos, Mount.fsType, hfirst,
      Option.bind_some]
  refine ⟨fun hroot => ?_, fun hroot => ?_⟩
  · rw [hpoint, Path.parent?_of_equiv_root hroot]
    rfl
  · obtain ⟨bytes, -, hread⟩ := hinfos
    have hne := MountInfo.mountPoint_ne_nil_of_read hread (MountInfo.mem_of_first hfirst).1
    obtain ⟨q, last, hq, hlast, hprefix⟩ := Path.exists_parent?_of_not_equiv_root hne hroot
    refine ⟨q, last, ?_, hq, hlast, hprefix⟩
    rw [hpoint, hq]
    rfl

/-- What a host answers when it is asked for the directory of its version 1 hierarchies. Where it
has no mount table, that is why. Where it has one, the answer is a beginning of the first mount
point that lacks its last component; but a first mount point that is the root, however it is
spelled, is answered as if no hierarchy were mounted. That is the answer exactly if the mount infos
can be read and tell of no version 1 hierarchy, or first of one on the root. -/
theorem v1MountPoint_outcome (h : Host) :
    (∀ error, h.mountTable = .error error → h.v1MountPoint = .error error) ∧
    (∀ t, h.mountTable = .ok t → ∃ infos first, h.TellsInfos infos ∧ t = .ofInfos infos ∧
      infos.find? (·.fsType = "cgroup") = some first ∧
      (first.mountPoint ≈ Path.root → h.v1MountPoint = .error .noneMounted) ∧
      (¬ first.mountPoint ≈ Path.root → ∃ q last, h.v1MountPoint = .ok q ∧
        first.mountPoint.parent? = some q ∧ first.mountPoint.components = q.components ++ [last] ∧
        q.chars <+: first.mountPoint.chars)) ∧
    (h.v1MountPoint = .error .noneMounted ↔ h.OpensSelf ∧ ∃ infos, h.TellsInfos infos ∧
      ∀ first, infos.find? (·.fsType = "cgroup") = some first →
        first.mountPoint ≈ Path.root) := by
  refine ⟨fun error => v1MountPoint_of_mountTable_error, fun t ht => ?_, ?_⟩
  · obtain ⟨infos, first, -, hinfos, rfl, hfirst⟩ := exists_first_of_mountTable ht
    exact ⟨infos, first, hinfos, rfl, hfirst, v1MountPoint_of_first hinfos ht hfirst⟩
  · constructor
    · intro hnone
      cases ht : h.mountTable with
      | error error =>
        rw [v1MountPoint_of_mountTable_error ht] at hnone
        obtain rfl := Except.error.inj hnone
        obtain ⟨hself, infos, hinfos, hother⟩ := mountTable_eq_noneMounted_iff.1 ht
        refine ⟨hself, infos, hinfos, fun first hfirst => ?_⟩
        obtain ⟨hmem, htype⟩ := MountInfo.mem_of_first hfirst
        exact absurd htype (hother first hmem)
      | ok t =>
        obtain ⟨infos, first, hself, hinfos, rfl, hfirst⟩ := exists_first_of_mountTable ht
        refine ⟨hself, infos, hinfos, fun first' hfirst' => ?_⟩
        obtain rfl := Option.some.inj (hfirst.symm.trans hfirst')
        by_contra hroot
        obtain ⟨q, last, hok, -⟩ := (v1MountPoint_of_first hinfos ht hfirst).2 hroot
        rw [hok] at hnone
        cases hnone
    · rintro ⟨hself, infos, hinfos, hroot⟩
      cases hfirst : infos.find? (·.fsType = "cgroup") with
      | none =>
        have hother : ∀ info ∈ infos, info.fsType ≠ Mount.fsType := by
          simpa [Mount.fsType] using hfirst
        have ht := (TableOutcome.noneMounted hself hinfos hother).mountTable
        exact v1MountPoint_of_mountTable_error ht
      | some first =>
        have hsome : ∃ info ∈ infos, info.fsType = Mount.fsType :=
          ⟨first, MountInfo.mem_of_first hfirst⟩
        have ht := (TableOutcome.mounted hself hinfos hsome).mountTable
        exact (v1MountPoint_of_first hinfos ht hfirst).1 (hroot first hfirst)

/-- A host whose only hierarchy is mounted on the root has a mount table, and says of the directory
of its hierarchies that none is mounted. -/
theorem v1MountPoint_of_root_mount :
    let h := bare.withMountInfos
      (Text.encode "30 25 0:26 / / rw - cgroup cgroup rw,memory".toList)
    (∃ t, h.mountTable = .ok t ∧ t.subsystems = ["memory"]) ∧
      h.v1MountPoint = .error .noneMounted := by
  intro h
  let f : MountInfo.Fields :=
    ⟨"30".toList, "25".toList, "0:26".toList, "/".toList, "/".toList, "rw".toList, [],
      "cgroup".toList, "cgroup".toList, "rw,memory".toList, []⟩
  have hread : MountInfo.read (Text.encode f.text) = .ok [f.info] :=
    f.read_text ⟨by decide, by decide, by simp [f]⟩ (by decide)
  have hself : h.OpensSelf := opensSelf_withMountInfos _ _
  have hinfos : h.TellsInfos [f.info] := tellsInfos_withMountInfos hread
  have hfirst : [f.info].find? (·.fsType = "cgroup") = some f.info :=
    List.find?_cons_of_pos (by decide)
  have hsome : ∃ info ∈ [f.info], info.fsType = Mount.fsType :=
    ⟨f.info, MountInfo.mem_of_first hfirst⟩
  have ht := (TableOutcome.mounted hself hinfos hsome).mountTable
  have hroot : f.info.mountPoint ≈ Path.root := by decide
  exact ⟨⟨_, ht, by decide +kernel⟩, (v1MountPoint_of_first hinfos ht hfirst).1 hroot⟩

end Host
end Cgroup
