import Cgroup.Proofs.Mount.Lookup
import Cgroup.Proofs.Resolve.Outcome
import Cgroup.Resolve.Membership

/-!
# Placing what was resolved

A cgroup path is placed below the mount of its subsystem, or of the named hierarchy of that name.
`exists_hostPath` says where; the rest of this file puts it together with the resolution of a
record. The two look a subsystem up in different ways: a resolution asks what the record lists, a
placement only what the table lists. `Record.exists_placing?` says when they mean one mount.
-/

namespace Cgroup

open Cgroup.Path

/-! ## The mount below which a path is placed -/

namespace Table

variable {t : Table} {subsystem : String}

/-- The mount below which the paths of a subsystem are placed. -/
def placing? (t : Table) (subsystem : String) : Option Mount :=
  (t.find? subsystem).or (t.find? (named subsystem))

theorem isEmpty_of_find? {name : String} {m : Mount} (h : t.find? name = some m) :
    t.isEmpty = false := by
  have hmem : m ∈ t.mounts := List.mem_of_find?_eq_some h
  rw [isEmpty, List.isEmpty_eq_false_iff]
  exact List.ne_nil_of_mem hmem

theorem isEmpty_of_placing? {m : Mount} (h : t.placing? subsystem = some m) :
    t.isEmpty = false := by
  rcases Option.or_eq_some_iff.1 h with hm | ⟨-, hm⟩
  · exact isEmpty_of_find? hm
  · exact isEmpty_of_find? hm

/-- A placed path is joined below the mount point. -/
theorem hostPath_of_placing? {m : Mount} (h : t.placing? subsystem = some m) (p : Path) :
    t.hostPath subsystem p = (m.mountPoint.joinBelow p.clean).mapError .join := by
  have hpoint : (t.mountPoint? subsystem).or (t.mountPoint? (named subsystem)) =
      some m.mountPoint := by
    calc (t.mountPoint? subsystem).or (t.mountPoint? (named subsystem))
        = (t.placing? subsystem).map Mount.mountPoint := Option.map_or.symm
      _ = some m.mountPoint := by rw [h, Option.map_some]
  rw [hostPath, isEmpty_of_placing? h, hpoint]
  rfl

/-- Placing cannot fail below a mount, and adds the names of the cleaned path to the components of
the mount point. -/
theorem exists_hostPath {m : Mount} (h : t.placing? subsystem = some m) (p : Path) :
    ∃ host, t.hostPath subsystem p = .ok host ∧ m.mountPoint.joinBelow p.clean = .ok host ∧
      host.components = m.mountPoint.components ++ (settle p.components).map .normal := by
  obtain ⟨host, hjoin, hcs⟩ :=
    exists_joinBelow_of_isAbsolute m.mountPoint (isAbsolute_clean p)
  refine ⟨host, ?_, hjoin, ?_⟩
  · rw [hostPath_of_placing? h, hjoin]
    rfl
  · rw [hcs, segments_clean]

end Table

/-- The mount below which a subsystem is placed, and when it is the one that a record is answered
from. -/
theorem Record.exists_placing? {r : Record} {t : Table} {subsystem : String} {source : Mount}
    (hsource : t.find? (r.answering t subsystem) = some source) :
    ∃ placed, t.placing? subsystem = some placed ∧
      (placed = source ↔ (r.get? subsystem).isSome ∨ t.find? subsystem = none ∨
        t.find? subsystem = t.find? (named subsystem)) := by
  cases hfind : t.find? subsystem with
  | none =>
    -- without a mount of its own, the subsystem stands for the named hierarchy on both sides
    have hdest : t.destination? subsystem = none := by
      rw [Table.destination?, hfind, Option.map_none]
    rw [answering_of_unmounted hdest] at hsource
    refine ⟨source, ?_, by simp⟩
    rw [Table.placing?, hfind, Option.none_or, hsource]
  | some m =>
    refine ⟨m, by rw [Table.placing?, hfind, Option.some_or], ?_⟩
    cases hrecorded : (r.get? subsystem).isSome with
    | true =>
      have hdest : (t.destination? subsystem).isSome := by
        rw [Table.destination?, hfind, Option.map_some, Option.isSome_some]
      have hanswering : r.answering t subsystem = subsystem := if_pos ⟨hrecorded, hdest⟩
      rw [hanswering, hfind] at hsource
      simp [Option.some.inj hsource]
    | false =>
      -- the record answers from the named hierarchy, the table goes by the mount of the subsystem
      rw [answering_of_unrecorded hrecorded] at hsource
      rw [hsource]
      simp

/-! ## Placing what a record resolves to -/

namespace Strategy

variable {h : Host} {r : Record} {suffix : Option Path} {t : Table} {subsystem : String}

/-- A target below the visible part of its hierarchy is placed below the mount point of the
subsystem, by the names that lead there from the root of the mount and then by those of the
suffix. -/
theorem exists_hostPath_of_recorded_below (h : Host) {infos : List MountInfo} {info : MountInfo}
    (hinfo : infos.find? (fun info => info.fsType = Mount.fsType ∧
      (Mount.ofInfo info).hasSubsystem subsystem) = some info)
    {path : Path} (hpath : r.get? subsystem = some path) {rel suf : List (List Char)}
    (hbelow : path.components = info.root.components ++ rel.map .normal)
    (hrel : rel ≠ [] ∨ info.root ≈ Path.root)
    (hsuffix : suffix.elim [] components = suf.map .normal)
    (hnone : ∀ name, ¬ r.StrandedAt (.ofInfos infos) name) :
    ∃ p host, (existing r suffix).resolveIn h (.ofInfos infos) subsystem = .ok p ∧
      (Table.ofInfos infos).hostPath subsystem p = .ok host ∧
      host.components = info.mountPoint.components ++ (rel ++ suf).map .normal := by
  have hfind : (Table.ofInfos infos).find? subsystem = some (Mount.ofInfo info) := by
    rw [Table.find?_ofInfos, hinfo, Option.map_some]
  have hdest : (Table.ofInfos infos).destination? subsystem = some info.root := by
    rw [Table.destination?, hfind, Option.map_some]
    rfl
  have hplacing : (Table.ofInfos infos).placing? subsystem = some (Mount.ofInfo info) := by
    rw [Table.placing?, hfind, Option.some_or]
  have hanswering : r.answering (.ofInfos infos) subsystem = subsystem :=
    if_pos ⟨by rw [hpath, Option.isSome_some], by rw [hdest, Option.isSome_some]⟩
  have hpath' : r.get? (r.answering (.ofInfos infos) subsystem) = some path := by
    rw [hanswering, hpath]
  have hdest' : (Table.ofInfos infos).destination? (r.answering (.ofInfos infos) subsystem) =
      some info.root := by rw [hanswering, hdest]
  have hwalk : walkFrom (settle (shownComponents info.root.components path.components))
      (suffix.elim [] components) = rel ++ suf := by
    rw [hbelow, settle_shownComponents_below hrel, hsuffix, walkFrom_map_normal]
  have hnames : ∀ name ∈ rel ++ suf, IsName name := by
    intro name hname
    rw [← hwalk] at hname
    exact isName_of_mem_walkFrom (fun _ => isName_of_mem_shown) (fun _ => isName_of_mem_suffix)
      name hname
  obtain ⟨host, hhost, -, hcs⟩ := Table.exists_hostPath hplacing (ofNames (rel ++ suf))
  refine ⟨ofNames (rel ++ suf), host, ?_, hhost, ?_⟩
  · rw [← hwalk]
    exact Record.resolve_of_recorded hnone suffix hpath' hdest'
  · rw [hcs, settle_components_ofNames hnames]
    rfl

/-- A target below a visible part of the hierarchy that is not at its root. The mount is the second
of the host. -/
theorem exists_hostPath_of_recorded_below_second :
    let pids : MountInfo :=
      ⟨"cgroup", .ofString "/sys/fs/cgroup/pids", .ofString "/", .ofList [("pids", none)]⟩
    let memory : MountInfo :=
      ⟨"cgroup", .ofString "/sys/fs/cgroup/memory/", .ofString "/docker/4a3b",
        .ofList [("rw", none), ("memory", none)]⟩
    ∃ p host, (existing (.ofList [("memory", .ofString "/docker//4a3b/app/")])
          (some (.ofString "jobs/7"))).resolveIn .bare (.ofInfos [pids, memory]) "memory" = .ok p ∧
      (Table.ofInfos [pids, memory]).hostPath "memory" p = .ok host ∧
      host.components = (Path.ofString "/sys/fs/cgroup/memory/").components ++
        (["app".toList] ++ ["jobs".toList, "7".toList]).map .normal := by
  intro pids memory
  have hinfo : [pids, memory].find? (fun info => info.fsType = Mount.fsType ∧
      (Mount.ofInfo info).hasSubsystem "memory") = some memory := by
    rw [List.find?_cons_of_neg (by decide +kernel), List.find?_cons_of_pos (by decide +kernel)]
  have hpath : (Record.ofList [("memory", .ofString "/docker//4a3b/app/")]).get? "memory" =
      some (.ofString "/docker//4a3b/app/") := by decide +kernel
  have hlist : (Record.ofList [("memory", .ofString "/docker//4a3b/app/")]).toList =
      [("memory", .ofString "/docker//4a3b/app/")] := by decide +kernel
  have hdest : (Table.ofInfos [pids, memory]).destination? "memory" =
      some (.ofString "/docker/4a3b") := by decide +kernel
  have hnone : ∀ name, ¬ (Record.ofList [("memory", .ofString "/docker//4a3b/app/")]).StrandedAt
      (.ofInfos [pids, memory]) name := by
    rw [Record.stranded_nowhere_iff, hlist]
    intro entry hentry hstrands
    obtain rfl := List.mem_singleton.1 hentry
    exact Option.some_ne_none _ (hdest.symm.trans hstrands.1)
  exact exists_hostPath_of_recorded_below .bare hinfo hpath (by decide +kernel) (Or.inl (by simp)) (by decide +kernel)
    hnone

/-- What a record resolves to can be placed. The mount below which it is placed is the one that
the recorded path was localised against exactly if the record lists the subsystem itself, or if a
mount of its own does not hide the named hierarchy. -/
theorem placed_eq_source_iff {p : Path}
    (hp : (existing r suffix).resolveIn h t subsystem = .ok p) :
    ∃ path source placed host, r.get? (r.answering t subsystem) = some path ∧
      t.find? (r.answering t subsystem) = some source ∧
      (source.root.localizeAt path).descend suffix = .ok p ∧
      (t.find? subsystem).or (t.find? (named subsystem)) = some placed ∧
      t.hostPath subsystem p = .ok host ∧ placed.mountPoint.joinBelow p.clean = .ok host ∧
      (placed = source ↔ (r.get? subsystem).isSome ∨ t.find? subsystem = none ∨
        t.find? subsystem = t.find? (named subsystem)) := by
  obtain ⟨-, path, top, hpath, htop, rfl⟩ := Record.resolve_eq_ok_iff.1 hp
  obtain ⟨source, hsource, rfl⟩ := Option.map_eq_some_iff.1 htop
  obtain ⟨placed, hplaced, hiff⟩ := Record.exists_placing? hsource
  obtain ⟨host, hhost, hjoin, -⟩ := Table.exists_hostPath hplaced _
  refine ⟨path, source, placed, host, hpath, hsource, ?_, hplaced, hhost, hjoin, hiff⟩
  rw [localizeAt_eq_ofNames, descend_ofNames fun _ => isName_of_mem_shown]

/-- A named hierarchy that no controller hides. -/
theorem placed_eq_source_iff_systemd :
    let r : Record := .ofList [("name=systemd", .ofString "/user.slice")]
    let systemd : Mount := ⟨.ofString "/sys/fs/cgroup/systemd", .root, ["name=systemd"]⟩
    let t : Table := ⟨[systemd], none⟩
    let p : Path := .ofString "/user.slice"
    (existing r none).resolveIn .bare t "systemd" = .ok p ∧
      ∃ path source placed host, r.get? (r.answering t "systemd") = some path ∧
        t.find? (r.answering t "systemd") = some source ∧
        (source.root.localizeAt path).descend none = .ok p ∧
        (t.find? "systemd").or (t.find? (named "systemd")) = some placed ∧
        t.hostPath "systemd" p = .ok host ∧ placed.mountPoint.joinBelow p.clean = .ok host ∧
        (placed = source ↔ (r.get? "systemd").isSome ∨ t.find? "systemd" = none ∨
          t.find? "systemd" = t.find? (named "systemd")) := by
  intro r systemd t p
  have hp : (existing r none).resolveIn .bare t "systemd" = .ok p := by decide +kernel
  exact ⟨hp, placed_eq_source_iff hp⟩

/-- A controller that the record does not list hides the named hierarchy of its name: the path of
the one is placed below the mount of the other. -/
theorem placed_ne_source :
    let r : Record := .ofList [("name=memory", .ofString "/job")]
    let memory : Mount := ⟨.ofString "/sys/fs/cgroup/memory", .root, ["memory"]⟩
    let extra : Mount := ⟨.ofString "/sys/fs/cgroup/extra", .root, ["name=memory"]⟩
    let t : Table := ⟨[memory, extra], none⟩
    (existing r none).resolveIn .bare t "memory" = .ok (.ofString "/job") ∧
      t.find? (r.answering t "memory") = some extra ∧
      (t.find? "memory").or (t.find? (named "memory")) = some memory ∧ memory ≠ extra ∧
      t.hostPath "memory" (.ofString "/job") = .ok (.ofString "/sys/fs/cgroup/memory/job") ∧
      extra.mountPoint.joinBelow (.ofString "/job") = .ok (.ofString "/sys/fs/cgroup/extra/job") := by
  intro r memory extra t
  have hunrecorded : (r.get? "memory").isSome = false := by decide +kernel
  have hanswering : r.answering t "memory" = "name=memory" :=
    Record.answering_of_unrecorded hunrecorded t
  refine ⟨by decide +kernel, ?_, by decide +kernel, ?_, by decide +kernel, by decide +kernel⟩
  · rw [hanswering]
    decide +kernel
  · exact fun heq => absurd (congrArg Mount.subsystems heq) (by decide)

end Strategy
end Cgroup
