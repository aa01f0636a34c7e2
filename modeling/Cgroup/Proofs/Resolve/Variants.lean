import Cgroup.Proofs.Mount.Lookup
import Cgroup.Proofs.Record.Variants
import Cgroup.Proofs.Resolve.Spelling

/-!
# Hosts that tell the same in two ways

What a host tells of its mounts may differ without any difference to a cgroup, as it may for a
record. Two tables that find the same mounts (`Table.Agrees`) answer alike, and so does a record
that is resolved against them. Tables agree on such hosts:

* `mounts_of_inserts`: mount infos of other file systems may stand anywhere among those of the
  version 1 hierarchies;
* `agrees_of_perm`: mounts may stand in any order if no subsystem has two of them, and `ofVisits_eq`
  says that the order in which the options of a mount info are visited does not show.

Together with the lines of a record, this is `resolveIn_of_inserts` and `resolveIn_of_reordered`.
-/

namespace Cgroup

variable {r r' : Record} {t t' : Table} {infos infos' : List MountInfo}

/-! ## Tables that agree -/

namespace Table

/-- Two tables that find the same mounts. -/
structure Agrees (t t' : Table) : Prop where
  find? (name : String) : t'.find? name = t.find? name
  isEmpty : t'.isEmpty = t.isEmpty

namespace Agrees

variable (h : t.Agrees t')
include h

theorem mountPoint? (name : String) : t'.mountPoint? name = t.mountPoint? name := by
  rw [Table.mountPoint?, h.find?, Table.mountPoint?]

theorem destination? (name : String) : t'.destination? name = t.destination? name := by
  rw [Table.destination?, h.find?, Table.destination?]

/-- Whether a table is empty decides which error there is, and the mount all else. -/
theorem hostPath (subsystem : String) (path : Path) :
    t'.hostPath subsystem path = t.hostPath subsystem path := by
  rw [Table.hostPath, h.isEmpty, h.mountPoint?, h.mountPoint?, Table.hostPath]

end Agrees

theorem agrees_of_mounts (h : t'.mounts = t.mounts) : t.Agrees t' where
  find? name := by rw [find?, h, find?]
  isEmpty := by rw [isEmpty, h, isEmpty]

end Table

/-- What is recorded and what is mounted for each name decide a resolution. -/
theorem Record.resolve_of_agrees (hpaths : r'.subsystems = r.subsystems) (h : t.Agrees t')
    (suffix : Option Path) (subsystem : String) :
    r'.resolve suffix t' subsystem = r.resolve suffix t subsystem := by
  have hget : ∀ name, r'.get? name = r.get? name := fun name => by rw [get?, hpaths, get?]
  exact resolve_congr (fun name => by rw [hget]) (fun name => by rw [h.destination?]) rfl subsystem

/-! ## Mount infos of other file systems -/

/-- The version 1 hierarchies of a host are told by the mount infos of their type alone. -/
theorem Table.mounts_of_inserts
    (h : Inserts (fun info => info.fsType ≠ Mount.fsType) infos infos') :
    (ofInfos infos').mounts = (ofInfos infos).mounts := by
  have hfilter : infos'.filter (·.fsType = Mount.fsType) =
      infos.filter (·.fsType = Mount.fsType) := by
    have hguard := h.filterMap_eq (f := Option.guard (·.fsType = Mount.fsType)) fun info hinfo => by
      simpa using hinfo
    rwa [List.filterMap_eq_filter] at hguard
  unfold ofInfos
  rw [hfilter]

/-! ## Mounts in another order -/

namespace Table

/-- No subsystem has two mounts. -/
def Exclusive (t : Table) : Prop :=
  t.mounts.Pairwise fun m m' => ∀ name, m.hasSubsystem name → ¬ m'.hasSubsystem name

/-- The first mount of a subsystem is the only one, and therefore the first in any order. -/
theorem find?_of_perm (h : t.mounts.Perm t'.mounts) (hexclusive : t.Exclusive) (name : String) :
    t'.find? name = t.find? name := by
  -- the search is a filter of which the first element is taken
  have hone : t.mounts.Pairwise fun m m' => ∀ x y,
      Option.guard (·.hasSubsystem name) m = some x →
        Option.guard (·.hasSubsystem name) m' ≠ some y := by
    refine hexclusive.imp fun {m m'} hmounts x y hx hy => ?_
    exact hmounts name (Option.guard_eq_some_iff.1 hx).2 (Option.guard_eq_some_iff.1 hy).2
  have hfilter := filterMap_eq_of_perm h hone
  rw [List.filterMap_eq_filter] at hfilter
  rw [find?, find?, ← List.head?_filter, ← List.head?_filter, hfilter]

theorem agrees_of_perm (h : t.mounts.Perm t'.mounts) (hexclusive : t.Exclusive) :
    t.Agrees t' where
  find? := find?_of_perm h hexclusive
  isEmpty := by rw [isEmpty, isEmpty, h.isEmpty_eq]

end Table

/-- A mount info with its options in the order in which they are visited. -/
structure MountInfo.Visit where
  info : MountInfo
  options : List (String × Option String)
  perm : options.Perm info.options.toList

namespace MountInfo.Visit

/-- The mounted hierarchy that is put together in a visit. -/
def mount (v : Visit) : Mount :=
  ⟨v.info.mountPoint, v.info.root, Mount.ofOptions v.options⟩

theorem mount_eq (v : Visit) : v.mount = Mount.ofInfo v.info := by
  rw [mount, Mount.ofOptions_of_perm v.perm, Mount.ofInfo]

end MountInfo.Visit

namespace Table

open MountInfo (Visit)

variable {visits visits' : List Visit}

/-- The cgroup mounts among mount infos, each with its options visited in some order. -/
def ofVisits (visits : List Visit) : Table :=
  ⟨(visits.filter (·.info.fsType = Mount.fsType)).map Visit.mount,
    (visits.find? (·.info.fsType = unifiedFsType)).map (·.info.mountPoint)⟩

/-- The order in which options are visited does not show. -/
theorem ofVisits_eq (visits : List Visit) : ofVisits visits = ofInfos (visits.map Visit.info) := by
  have hmount : Visit.mount = Mount.ofInfo ∘ Visit.info := funext Visit.mount_eq
  rw [ofVisits, ofInfos, List.filter_map, List.map_map, List.find?_map, Option.map_map, hmount]
  rfl

theorem agrees_ofVisits (h : (visits.map Visit.info).Perm (visits'.map Visit.info))
    (hexclusive : (ofInfos (visits.map Visit.info)).Exclusive) :
    (ofVisits visits).Agrees (ofVisits visits') := by
  rw [ofVisits_eq, ofVisits_eq]
  exact agrees_of_perm ((h.filter _).map _) hexclusive

end Table

/-! ## Both -/

namespace Strategy

open MountInfo (Visit)

variable {ls ls' : List (List UInt8)} {bytes bytes' : List UInt8}

/-- The version 2 hierarchy has no part in what is answered for version 1. Lines for it may stand
anywhere in a record, and mount infos of other types anywhere among those of the version 1
hierarchies. Without them, the stream is a record as before or has the same error, the record has
the same paths and resolves to the same, and the table finds the same mounts and places each path in
the same way. -/
theorem resolveIn_of_inserts (hjoins : Text.Joins ls bytes) (hjoins' : Text.Joins ls' bytes')
    (hlines : Inserts Record.UnifiedLine ls ls')
    (hinfos : Inserts (fun info => info.fsType ≠ "cgroup") infos infos') (source : Path) :
    let t := Table.ofInfos infos
    let t' := Table.ofInfos infos'
    ((∃ error, Record.read source bytes = .error error ∧
        Record.read source bytes' = .error error) ∨
      ∃ r r', Record.read source bytes = .ok r ∧ Record.read source bytes' = .ok r' ∧
        (∀ name, r'.get? name = r.get? name) ∧ r'.size = r.size ∧
        ∀ h suffix subsystem, (existing r' suffix).resolveIn h t' subsystem =
          (existing r suffix).resolveIn h t subsystem) ∧
    (∀ subsystem, t'.find? subsystem = t.find? subsystem ∧
      t'.mountPoint? subsystem = t.mountPoint? subsystem ∧
      t'.destination? subsystem = t.destination? subsystem ∧
      ∀ path, t'.hostPath subsystem path = t.hostPath subsystem path) ∧
    t'.v1Root? = t.v1Root? ∧ t'.subsystems = t.subsystems := by
  intro t t'
  -- only the mount of the version 2 hierarchy may differ between the tables
  have hmounts : t'.mounts = t.mounts := Table.mounts_of_inserts hinfos
  have hagrees : t.Agrees t' := Table.agrees_of_mounts hmounts
  refine ⟨?record, fun subsystem => ⟨hagrees.find? subsystem, hagrees.mountPoint? subsystem,
    hagrees.destination? subsystem, hagrees.hostPath subsystem⟩, ?root, ?subsystems⟩
  case record =>
    rcases Record.read_of_inserts hjoins hjoins' hlines source with
      herror | ⟨r, r', hr, hr', hpaths⟩
    · exact .inl herror
    · refine .inr ⟨r, r', hr, hr', fun name => ?_, ?_, fun h suffix subsystem => ?_⟩
      · rw [Record.get?, hpaths, Record.get?]
      · rw [Record.size, hpaths, Record.size]
      · exact Record.resolve_of_agrees hpaths hagrees suffix subsystem
  case root => rw [Table.v1Root?, hmounts, Table.v1Root?]
  case subsystems => rw [Table.subsystems, hmounts, Table.subsystems]

/-- A host with all controllers but one in the version 2 hierarchy. -/
theorem resolveIn_of_inserts_hybrid :
    let memory := Text.encode "4:memory:/docker/4a3b".toList
    let unified := Text.encode "0::/user.slice ".toList
    let bytes := memory
    let bytes' := unified ++ 10 :: (memory ++ 13 :: 10 :: unified)
    let v1 : MountInfo :=
      ⟨"cgroup", .ofString "/sys/fs/cgroup/memory", .ofString "/docker", .ofList [("memory", none)]⟩
    let v2 : MountInfo :=
      ⟨"cgroup2", .ofString "/sys/fs/cgroup/unified", .root, .ofList [("memory", none)]⟩
    let t := Table.ofInfos [v1]
    let t' := Table.ofInfos [v2, v1, v2]
    Text.Joins [memory] bytes ∧ Text.Joins [unified, memory, unified] bytes' ∧
      Inserts Record.UnifiedLine [memory] [unified, memory, unified] ∧
      Inserts (fun info : MountInfo => info.fsType ≠ "cgroup") [v1] [v2, v1, v2] ∧
      ((∃ error, Record.read .empty bytes = .error error ∧
          Record.read .empty bytes' = .error error) ∨
        ∃ r r', Record.read .empty bytes = .ok r ∧ Record.read .empty bytes' = .ok r' ∧
          (∀ name, r'.get? name = r.get? name) ∧ r'.size = r.size ∧
          ∀ h suffix subsystem, (existing r' suffix).resolveIn h t' subsystem =
            (existing r suffix).resolveIn h t subsystem) ∧
      (∀ subsystem, t'.find? subsystem = t.find? subsystem ∧
        t'.mountPoint? subsystem = t.mountPoint? subsystem ∧
        t'.destination? subsystem = t.destination? subsystem ∧
        ∀ path, t'.hostPath subsystem path = t.hostPath subsystem path) ∧
      t'.v1Root? = t.v1Root? ∧ t'.subsystems = t.subsystems := by
  intro memory unified bytes bytes' v1 v2 t t'
  have hmemory : 10 ∉ memory := by decide
  have hunified : 10 ∉ unified := by decide
  have hjoins : Text.Joins [memory] bytes := .unended (by decide) hmemory
  have hjoins' : Text.Joins [unified, memory, unified] bytes' :=
    .newline hunified (.returnNewline hmemory (.unended (by decide) hunified))
  have hline : Record.UnifiedLine unified := ⟨"/user.slice ".toList, rfl⟩
  have hlines : Inserts Record.UnifiedLine [memory] [unified, memory, unified] :=
    .insert hline (.keep memory (.insert hline .nil))
  have htype : v2.fsType ≠ "cgroup" := by decide
  have hinfos : Inserts (fun info : MountInfo => info.fsType ≠ "cgroup") [v1] [v2, v1, v2] :=
    .insert htype (.keep v1 (.insert htype .nil))
  exact ⟨hjoins, hjoins', hlines, hinfos,
    resolveIn_of_inserts hjoins hjoins' hlines hinfos .empty⟩

/-- The order of what a host tells has no part in the answers, if no name stands on two lines of the
record and no subsystem has two mounts. The lines, the names on each of them, the mount infos and
the options of each may be told in any order, and the hierarchies may have any ids: the record has
the same paths, the table the same mount points and roots, and both answer alike. -/
theorem resolveIn_of_reordered {mid : List (List UInt8)} (hjoins : Text.Joins ls bytes)
    (hjoins' : Text.Joins ls' bytes') (hperm : ls.Perm mid)
    (hrelisted : List.Forall₂ Record.Relisted mid ls')
    (hdistinct : ls.Pairwise fun line line' => ∀ name path path', Record.Lists name line path →
      ¬ Record.Lists name line' path')
    {visits visits' : List Visit} (hinfos : (visits.map Visit.info).Perm (visits'.map Visit.info))
    (hexclusive : (Table.ofInfos (visits.map Visit.info)).Exclusive) (source : Path) :
    let t := Table.ofVisits visits
    let t' := Table.ofVisits visits'
    ∃ r r', Record.read source bytes = .ok r ∧ Record.read source bytes' = .ok r' ∧
      r'.subsystems = r.subsystems ∧
      (∀ subsystem, t'.mountPoint? subsystem = t.mountPoint? subsystem ∧
        t'.destination? subsystem = t.destination? subsystem ∧
        ∀ path, t'.hostPath subsystem path = t.hostPath subsystem path) ∧
      ∀ h suffix subsystem, (existing r' suffix).resolveIn h t' subsystem =
        (existing r suffix).resolveIn h t subsystem := by
  intro t t'
  have hagrees : t.Agrees t' := Table.agrees_ofVisits hinfos hexclusive
  obtain ⟨r, r', hr, hr', hpaths⟩ :=
    Record.read_of_reordered hjoins hjoins' hperm hrelisted hdistinct source
  refine ⟨r, r', hr, hr', hpaths, fun subsystem => ?_, fun h suffix subsystem => ?_⟩
  · exact ⟨hagrees.mountPoint? subsystem, hagrees.destination? subsystem,
      hagrees.hostPath subsystem⟩
  · exact Record.resolve_of_agrees hpaths hagrees suffix subsystem

/-- Everything in another order: the lines, the names and the id of the first one, the mount infos,
and the options of the first one. -/
theorem resolveIn_of_reordered_swapped :
    let cpu : Record.Listing :=
      { front := [], id := ['3'], names := ["cpu".toList, "cpuacct".toList], path := ['/', 'a'],
        back := [], front_blank := by simp,
        id_valid := ⟨3, ['3'], .inl rfl, by simp, by simp, by decide, by omega⟩,
        names_ne_nil := by simp, name_valid := by decide, path_end := by simp; decide,
        back_blank := by simp }
    let cpu' : Record.Listing :=
      { cpu with
        id := ['+', '1', '2'], names := ["cpuacct".toList, "cpu".toList],
        id_valid := ⟨12, ['1', '2'], .inr rfl, by simp, by simp, by decide, by omega⟩,
        names_ne_nil := by simp, name_valid := by decide }
    let memory : Record.Listing :=
      { cpu with
        names := ["memory".toList], names_ne_nil := by simp, name_valid := by decide }
    let bytes := cpu.line ++ 10 :: memory.line
    let bytes' := memory.line ++ 10 :: (cpu'.line ++ [10])
    let cpuInfo : MountInfo :=
      ⟨"cgroup", .ofString "/sys/fs/cgroup/cpu", .root, .ofList [("cpu", none), ("rw", none)]⟩
    let memoryInfo : MountInfo :=
      ⟨"cgroup", .ofString "/sys/fs/cgroup/memory", .root, .ofList [("memory", none)]⟩
    let cpuVisit : Visit := ⟨cpuInfo, [("cpu", none), ("rw", none)], by decide +kernel⟩
    let cpuVisit' : Visit := ⟨cpuInfo, [("rw", none), ("cpu", none)], by decide +kernel⟩
    let memoryVisit : Visit := ⟨memoryInfo, [("memory", none)], by decide +kernel⟩
    let t := Table.ofVisits [cpuVisit, memoryVisit]
    let t' := Table.ofVisits [memoryVisit, cpuVisit']
    Text.Joins [cpu.line, memory.line] bytes ∧ Text.Joins [memory.line, cpu'.line] bytes' ∧
      [cpu.line, memory.line].Perm [memory.line, cpu.line] ∧
      List.Forall₂ Record.Relisted [memory.line, cpu.line] [memory.line, cpu'.line] ∧
      [cpu.line, memory.line].Pairwise (fun line line' => ∀ name path path',
        Record.Lists name line path → ¬ Record.Lists name line' path') ∧
      ([cpuVisit, memoryVisit].map Visit.info).Perm ([memoryVisit, cpuVisit'].map Visit.info) ∧
      (Table.ofInfos ([cpuVisit, memoryVisit].map Visit.info)).Exclusive ∧
      ∃ r r', Record.read .empty bytes = .ok r ∧ Record.read .empty bytes' = .ok r' ∧
        r'.subsystems = r.subsystems ∧
        (∀ subsystem, t'.mountPoint? subsystem = t.mountPoint? subsystem ∧
          t'.destination? subsystem = t.destination? subsystem ∧
          ∀ path, t'.hostPath subsystem path = t.hostPath subsystem path) ∧
        ∀ h suffix subsystem, (existing r' suffix).resolveIn h t' subsystem =
          (existing r suffix).resolveIn h t subsystem := by
  intro cpu cpu' memory bytes bytes' cpuInfo memoryInfo cpuVisit cpuVisit' memoryVisit t t'
  have hcpu : 10 ∉ cpu.line := by decide
  have hcpu' : 10 ∉ cpu'.line := by decide
  have hmemory : 10 ∉ memory.line := by decide
  have hjoins : Text.Joins [cpu.line, memory.line] bytes :=
    .newline hcpu (.unended (by decide) hmemory)
  have hjoins' : Text.Joins [memory.line, cpu'.line] bytes' :=
    .newline hmemory (.newline hcpu' .nil)
  have hperm : [cpu.line, memory.line].Perm [memory.line, cpu.line] := .swap ..
  obtain ⟨_, hcpuSaid⟩ := cpu.exists_said
  obtain ⟨_, hmemorySaid⟩ := memory.exists_said
  have hrelisted :
      List.Forall₂ Record.Relisted [memory.line, cpu.line] [memory.line, cpu'.line] :=
    .cons (.keep hmemorySaid) (.cons (.relist hcpuSaid (.swap ..) rfl) .nil)
  have hdistinct : [cpu.line, memory.line].Pairwise fun line line' => ∀ name path path',
      Record.Lists name line path → ¬ Record.Lists name line' path' := by
    simp only [List.pairwise_pair, ← Record.pathOn?_eq_some_iff, Record.Listing.pathOn?_line]
    intro name path path' hpath hpath'
    obtain ⟨hname, -⟩ := Option.ite_none_right_eq_some.1 hpath
    obtain ⟨hname', -⟩ := Option.ite_none_right_eq_some.1 hpath'
    obtain rfl : name = "memory" := List.mem_singleton.1 hname'
    exact absurd hname (by decide)
  have hinfos : ([cpuVisit, memoryVisit].map Visit.info).Perm
      ([memoryVisit, cpuVisit'].map Visit.info) := .swap ..
  have hexclusive : (Table.ofInfos ([cpuVisit, memoryVisit].map Visit.info)).Exclusive := by
    have hmounts : (Table.ofInfos ([cpuVisit, memoryVisit].map Visit.info)).mounts =
        [⟨.ofString "/sys/fs/cgroup/cpu", .root, ["cpu"]⟩,
          ⟨.ofString "/sys/fs/cgroup/memory", .root, ["memory"]⟩] := by decide +kernel
    rw [Table.Exclusive, hmounts, List.pairwise_pair]
    intro name hname hname'
    obtain rfl : name = "memory" := by simpa [Mount.hasSubsystem] using hname'
    exact absurd hname (by decide)
  exact ⟨hjoins, hjoins', hperm, hrelisted, hdistinct, hinfos, hexclusive,
    resolveIn_of_reordered hjoins hjoins' hperm hrelisted hdistinct hinfos hexclusive .empty⟩

end Strategy
end Cgroup
