import Cgroup.Proofs.Resolve.Placing

/-!
# More mounts

A subsystem belongs to the first mount that lists it, so that mounts that come later take nothing
away: all that a table finds is found in a longer one as well (`keeps_ofInfos_append`). What a
longer table adds is told from there. A record is stranded on fewer names and active for more of
them, and its answer is the same unless the subsystem has become active where the named hierarchy
of that name answered before (`Keeps.answering`).
-/

namespace Cgroup

open Cgroup.Path

variable {r : Record} {t t' : Table} {suffix : Option Path} {name subsystem : String}

namespace Table

/-- All that the first table finds, the second one finds as well. -/
def Keeps (t t' : Table) : Prop :=
  ∀ name m, t.find? name = some m → t'.find? name = some m

/-! ## Longer tables -/

theorem mounts_ofInfos_append (a b : List MountInfo) :
    (ofInfos (a ++ b)).mounts = (ofInfos a).mounts ++ (ofInfos b).mounts := by
  unfold ofInfos
  rw [List.filter_append, List.map_append]

theorem unified_ofInfos_append (a b : List MountInfo) :
    (ofInfos (a ++ b)).unified = (ofInfos a).unified.or (ofInfos b).unified := by
  unfold ofInfos
  rw [List.find?_append, Option.map_or]

/-- Mounts behind those of a table hide none of them. -/
theorem keeps_ofInfos_append (a b : List MountInfo) : (ofInfos a).Keeps (ofInfos (a ++ b)) := by
  intro name m hm
  rw [find?] at hm
  rw [find?, mounts_ofInfos_append, List.find?_append, hm, Option.some_or]

/-- The directory of the version 1 hierarchies is told by the first mount alone. -/
theorem v1Root?_ofInfos_append {a : List MountInfo} {root : Path}
    (h : (ofInfos a).v1Root? = some root) (b : List MountInfo) :
    (ofInfos (a ++ b)).v1Root? = some root := by
  obtain ⟨first, hfirst, hroot⟩ := Option.bind_eq_some_iff.1 h
  rw [v1Root?, mounts_ofInfos_append, List.head?_append, hfirst, Option.some_or, Option.bind_some,
    hroot]

/-! ## What is kept -/

namespace Keeps

variable (hkeeps : t.Keeps t')
include hkeeps

theorem destination? {top : Path} (h : t.destination? name = some top) :
    t'.destination? name = some top := by
  obtain ⟨m, hm, rfl⟩ := Option.map_eq_some_iff.1 h
  rw [Table.destination?, hkeeps name m hm, Option.map_some]

/-- What is placed below a mount of the subsystem is placed there still. -/
theorem hostPath {m : Mount} (hm : t.find? subsystem = some m) (p : Path) :
    t'.hostPath subsystem p = t.hostPath subsystem p := by
  have hplacing : t.placing? subsystem = some m := by rw [placing?, hm, Option.some_or]
  have hplacing' : t'.placing? subsystem = some m := by
    rw [placing?, hkeeps subsystem m hm, Option.some_or]
  rw [hostPath_of_placing? hplacing, hostPath_of_placing? hplacing']

/-- No record becomes stranded. -/
theorem strandedAt (h : r.StrandedAt t' name) : r.StrandedAt t name := by
  refine ⟨?_, h.2⟩
  cases hdest : t.destination? name with
  | none => rfl
  | some top =>
    have hdest' := hkeeps.destination? hdest
    rw [h.1] at hdest'
    cases hdest'

/-- A record stays active. -/
theorem activeAt (h : r.ActiveAt t name) : r.ActiveAt t' name := by
  obtain ⟨path, top, hpath, htop⟩ := Record.exists_of_activeAt h
  exact ⟨by rw [hpath, Option.isSome_some], by rw [hkeeps.destination? htop, Option.isSome_some]⟩

theorem activeAt_answering (h : r.ActiveAt t (r.answering t subsystem)) :
    r.ActiveAt t' (r.answering t' subsystem) :=
  Record.activeAt_answering_iff.2
    ((Record.activeAt_answering_iff.1 h).imp hkeeps.activeAt hkeeps.activeAt)

/-- The same name answers, unless the subsystem itself has become active. -/
theorem answering (h : ¬ ((r.get? subsystem).isSome ∧ t.find? subsystem = none ∧
      (t'.find? subsystem).isSome)) : r.answering t' subsystem = r.answering t subsystem := by
  have hactive : r.ActiveAt t' subsystem ↔ r.ActiveAt t subsystem := by
    refine ⟨fun hactive' => ?_, hkeeps.activeAt⟩
    obtain ⟨hrecorded, hmounted⟩ := hactive'
    refine ⟨hrecorded, ?_⟩
    rw [Table.destination?, Option.isSome_map] at hmounted ⊢
    by_contra hnone
    exact h ⟨hrecorded, Option.not_isSome_iff_eq_none.1 hnone, hmounted⟩
  unfold Record.answering
  simp only [hactive]

end Keeps
end Table

/-! ## Resolving against more mounts -/

namespace Record

/-- The name that a resolution reports is the least one that the record is stranded on. -/
theorem resolve_eq_noDestination
    (h : r.resolve suffix t subsystem = .error (.noDestination name)) :
    r.StrandedAt t name ∧ ∀ other, r.StrandedAt t other → name ≤ other := by
  by_cases hs : ∃ name, r.StrandedAt t name
  · obtain ⟨least, hname, hleast, herror⟩ := resolve_of_stranded hs suffix subsystem
    rw [herror] at h
    obtain rfl : least = name := by simpa using h
    exact ⟨hname, hleast⟩
  · rw [not_exists] at hs
    by_cases ha : r.ActiveAt t (r.answering t subsystem)
    · obtain ⟨path, top, hpath, htop⟩ := exists_of_activeAt ha
      rw [resolve_of_recorded hs suffix hpath htop] at h
      cases h
    · rw [resolve_of_not_active hs suffix ha] at h
      cases h

/-- A record that resolves still does, and to the same path if the same name answers. -/
theorem resolve_of_keeps (hkeeps : t.Keeps t') {p : Path}
    (h : r.resolve suffix t subsystem = .ok p) :
    (∃ p', r.resolve suffix t' subsystem = .ok p') ∧
      (r.answering t' subsystem = r.answering t subsystem →
        r.resolve suffix t' subsystem = .ok p) := by
  obtain ⟨hnone, path, top, hpath, htop, rfl⟩ := resolve_eq_ok_iff.1 h
  have hnone' : ∀ name, ¬ r.StrandedAt t' name := fun name hs => hnone name (hkeeps.strandedAt hs)
  have ha : r.ActiveAt t (r.answering t subsystem) :=
    ⟨by rw [hpath, Option.isSome_some], by rw [htop, Option.isSome_some]⟩
  refine ⟨?_, fun hanswering => ?_⟩
  · obtain ⟨path', top', hpath', htop'⟩ := exists_of_activeAt (hkeeps.activeAt_answering ha)
    exact ⟨_, resolve_of_recorded hnone' suffix hpath' htop'⟩
  · rw [← hanswering] at hpath htop
    exact resolve_of_recorded hnone' suffix hpath (hkeeps.destination? htop)

end Record

namespace Strategy

/-- What mounts that come later leave as it is. A subsystem that has a mount keeps it, with its
mount point, its root and the places of all paths; so do the directory of the version 1 hierarchies
and the mount of the version 2 hierarchy, if there is one. A record that resolves does so still, to
the same path unless it lists the subsystem itself and the later mounts are the first to have it.
One that is stranded before and after is not reported for a smaller name. -/
theorem resolveIn_ofInfos_append (a b : List MountInfo) :
    let t := Table.ofInfos a
    let t' := Table.ofInfos (a ++ b)
    (∀ subsystem, (t.find? subsystem).isSome →
      t'.find? subsystem = t.find? subsystem ∧
      t'.mountPoint? subsystem = t.mountPoint? subsystem ∧
      t'.destination? subsystem = t.destination? subsystem ∧
      ∀ path, t'.hostPath subsystem path = t.hostPath subsystem path) ∧
    (t.v1Root?.isSome → t'.v1Root? = t.v1Root?) ∧
    (t.unified.isSome → t'.unified = t.unified) ∧
    ∀ h r suffix subsystem,
      (∀ p, (existing r suffix).resolveIn h t subsystem = .ok p →
        (∃ p', (existing r suffix).resolveIn h t' subsystem = .ok p') ∧
        (¬ ((r.get? subsystem).isSome ∧ t.find? subsystem = none ∧
            (t'.find? subsystem).isSome) →
          (existing r suffix).resolveIn h t' subsystem = .ok p)) ∧
      ∀ name name', (existing r suffix).resolveIn h t subsystem = .error (.noDestination name) →
        (existing r suffix).resolveIn h t' subsystem = .error (.noDestination name') →
        name ≤ name' := by
  intro t t'
  have hkeeps : t.Keeps t' := Table.keeps_ofInfos_append a b
  refine ⟨fun subsystem hsome => ?_, fun hsome => ?_, fun hsome => ?_, fun h r suffix subsystem =>
    ⟨fun p hp => ?_, fun name name' hname hname' => ?_⟩⟩
  · obtain ⟨m, hm⟩ := Option.isSome_iff_exists.1 hsome
    have hfind : t'.find? subsystem = t.find? subsystem := by rw [hm, hkeeps subsystem m hm]
    refine ⟨hfind, ?_, ?_, hkeeps.hostPath hm⟩
    · rw [Table.mountPoint?, hfind, Table.mountPoint?]
    · rw [Table.destination?, hfind, Table.destination?]
  · obtain ⟨root, hroot⟩ := Option.isSome_iff_exists.1 hsome
    rw [hroot, Table.v1Root?_ofInfos_append hroot]
  · obtain ⟨point, hpoint⟩ := Option.isSome_iff_exists.1 hsome
    rw [hpoint, Table.unified_ofInfos_append, hpoint, Option.some_or]
  · obtain ⟨hok, hsame⟩ := Record.resolve_of_keeps hkeeps hp
    exact ⟨hok, fun hunless => hsame (hkeeps.answering hunless)⟩
  · -- the name that is reported at last was one of those before
    obtain ⟨hs', -⟩ := Record.resolve_eq_noDestination hname'
    obtain ⟨-, hleast⟩ := Record.resolve_eq_noDestination hname
    exact hleast name' (hkeeps.strandedAt hs')

/-- The exception is real: a controller that is mounted at last takes over from the named
hierarchy of its name. -/
example :
    let r : Record := .ofList [("cpu", .root), ("name=cpu", .ofString "/job")]
    let jobs : Mount := ⟨.ofString "/sys/fs/cgroup/jobs", .root, ["name=cpu"]⟩
    let cpu : Mount := ⟨.ofString "/sys/fs/cgroup/cpu", .root, ["cpu"]⟩
    (existing r none).resolveIn .bare ⟨[jobs], none⟩ "cpu" = .ok (.ofString "/job") ∧
      (existing r none).resolveIn .bare ⟨[jobs, cpu], none⟩ "cpu" = .ok .root := by
  refine ⟨by cbv, by cbv⟩

end Strategy
end Cgroup
