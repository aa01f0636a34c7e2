import Cgroup.Proofs.Mount.Reading
import Cgroup.Proofs.Resolve.Outcome

/-!
# Resolving against the mounts of a host

A strategy that is resolved on a host asks for the mount table first and looks for the target then.
`mountTable_eq_iff` tells apart what can come of the first step, and `resolveIn_eq_error` says that
the second step has errors of its own. The two together are `resolve_eq_table_iff` and
`resolve_eq_noneMounted_iff`: an error about the mounts is one of the host and has nothing to do
with the strategy. `resolve_live_outcome` says it of all answers.
-/

namespace Cgroup

/-! ## The mount table -/

theorem Table.isEmpty_ofInfos_iff {infos : List MountInfo} :
    (ofInfos infos).isEmpty = true ↔ ∀ info ∈ infos, info.fsType ≠ Mount.fsType := by
  simp [isEmpty, ofInfos]

namespace Host

/-- A process on the host can find itself: the host does not refuse that. -/
def OpensSelf (h : Host) : Prop :=
  ∀ code, h.file selfDirectory ≠ .refused code

/-- The mount infos of a host can be read, and these are they. -/
def TellsInfos (h : Host) (infos : List MountInfo) : Prop :=
  ∃ bytes, h.openFile mountInfoFile = .ok (.content bytes) ∧ MountInfo.read bytes = .ok infos

/-- The host with a directory for a process to find itself, and with these bytes as its mount
infos. -/
def withMountInfos (h : Host) (bytes : List UInt8) : Host :=
  (h.setFile selfDirectory .directory).setFile mountInfoFile (.content bytes)

/-- What can come of asking a host for its mount table. -/
inductive TableOutcome (h : Host) : Except TableError Table → Prop where
  /-- A process cannot find itself. -/
  | noSelf {code : Int} (hself : h.file selfDirectory = .refused code) :
      TableOutcome h (.error (.noSelf (.ofFault selfDirectory (.errno code))))
  /-- It can, but cannot read its mount infos. -/
  | noInfos {fault : MountInfoError} (hself : h.OpensSelf) (hinfos : h.mountInfos = .error fault) :
      TableOutcome h (.error (.noInfos fault))
  /-- It can, and there is no version 1 hierarchy among them. -/
  | noneMounted {infos : List MountInfo} (hself : h.OpensSelf) (hinfos : h.TellsInfos infos)
      (hnone : ∀ info ∈ infos, info.fsType ≠ Mount.fsType) : TableOutcome h (.error .noneMounted)
  /-- There is one. -/
  | mounted {infos : List MountInfo} (hself : h.OpensSelf) (hinfos : h.TellsInfos infos)
      (hsome : ∃ info ∈ infos, info.fsType = Mount.fsType) : TableOutcome h (.ok (.ofInfos infos))

variable {h : Host} {infos : List MountInfo} {outcome : Except TableError Table}

theorem mountInfos_eq_ok_iff : h.mountInfos = .ok infos ↔ h.TellsInfos infos := by
  unfold mountInfos TellsInfos
  cases h.openFile mountInfoFile with
  | error fault => simp [bind, Except.bind, Except.mapError]
  | ok file => cases file <;> simp [bind, Except.bind, Except.mapError, File.read]

theorem mountInfos_withMountInfos (h : Host) (bytes : List UInt8) :
    (h.withMountInfos bytes).mountInfos = MountInfo.read bytes := by
  have hname : '\x00' ∉ mountInfoFile.chars := by decide
  have hfile : (h.withMountInfos bytes).file mountInfoFile = .content bytes := by
    simp only [withMountInfos, setFile, if_true]
  rw [mountInfos, openFile, if_neg hname, hfile]
  rfl

theorem tellsInfos_withMountInfos {bytes : List UInt8} (hread : MountInfo.read bytes = .ok infos) :
    (h.withMountInfos bytes).TellsInfos infos := by
  rw [← mountInfos_eq_ok_iff, mountInfos_withMountInfos, hread]

theorem opensSelf_withMountInfos (h : Host) (bytes : List UInt8) :
    (h.withMountInfos bytes).OpensSelf := by
  intro code
  have hne : selfDirectory ≠ mountInfoFile := by decide
  simp only [withMountInfos, setFile, if_neg hne, if_pos]
  exact FileEntry.noConfusion

/-- The other files are as they were. -/
theorem file_withMountInfos {path : Path} {bytes : List UInt8} (hself : path ≠ selfDirectory)
    (hinfos : path ≠ mountInfoFile) : (h.withMountInfos bytes).file path = h.file path := by
  simp only [withMountInfos, setFile, if_neg hself, if_neg hinfos]

theorem openSelf_of_opensSelf (hself : h.OpensSelf) : h.openSelf = .ok () := by
  unfold openSelf
  split
  · rename_i code hcode
    exact absurd hcode (hself code)
  · rfl

/-- A host that can be asked makes a table of what it tells. -/
theorem mountTable_of_tellsInfos (hself : h.OpensSelf) (hinfos : h.TellsInfos infos) :
    h.mountTable =
      if (Table.ofInfos infos).isEmpty then .error .noneMounted else .ok (.ofInfos infos) := by
  rw [mountTable, openSelf_of_opensSelf hself, mountInfos_eq_ok_iff.2 hinfos]
  rfl

theorem TableOutcome.mountTable (hout : h.TableOutcome outcome) : h.mountTable = outcome := by
  cases hout with
  | noSelf hself =>
    rw [Host.mountTable, openSelf, hself]
    rfl
  | noInfos hself hinfos =>
    rw [Host.mountTable, openSelf_of_opensSelf hself, hinfos]
    rfl
  | noneMounted hself hinfos hnone =>
    rw [mountTable_of_tellsInfos hself hinfos, if_pos (Table.isEmpty_ofInfos_iff.2 hnone)]
  | mounted hself hinfos hsome =>
    obtain ⟨info, hinfo, htype⟩ := hsome
    rw [mountTable_of_tellsInfos hself hinfos, if_neg]
    exact fun hempty => Table.isEmpty_ofInfos_iff.1 hempty info hinfo htype

/-- Every host gives one of these answers. -/
theorem exists_tableOutcome (h : Host) : ∃ outcome, h.TableOutcome outcome := by
  by_cases hself : h.OpensSelf
  · cases hinfos : h.mountInfos with
    | error fault => exact ⟨_, .noInfos hself hinfos⟩
    | ok infos =>
      have htells := mountInfos_eq_ok_iff.1 hinfos
      by_cases hsome : ∃ info ∈ infos, info.fsType = Mount.fsType
      · exact ⟨_, .mounted hself htells hsome⟩
      · exact ⟨_, .noneMounted hself htells fun info hinfo htype => hsome ⟨info, hinfo, htype⟩⟩
  · obtain ⟨code, hcode⟩ := not_forall_not.1 hself
    exact ⟨_, .noSelf hcode⟩

theorem mountTable_eq_iff : h.mountTable = outcome ↔ h.TableOutcome outcome := by
  refine ⟨fun heq => ?_, TableOutcome.mountTable⟩
  obtain ⟨outcome', hout⟩ := h.exists_tableOutcome
  obtain rfl := heq.symm.trans hout.mountTable
  exact hout

/-- No version 1 hierarchy is mounted exactly if the mount infos can be read and tell of none. -/
theorem mountTable_eq_noneMounted_iff :
    h.mountTable = .error .noneMounted ↔ h.OpensSelf ∧ ∃ infos, h.TellsInfos infos ∧
      ∀ info ∈ infos, info.fsType ≠ Mount.fsType := by
  rw [mountTable_eq_iff]
  constructor
  · intro hout
    cases hout with
    | noneMounted hself hinfos hnone => exact ⟨hself, _, hinfos, hnone⟩
  · rintro ⟨hself, infos, hinfos, hnone⟩
    exact .noneMounted hself hinfos hnone

/-- Asking for the table fails in another way exactly if a process cannot find itself or cannot read
its mount infos. -/
theorem exists_mountTable_error_iff :
    (∃ error, error ≠ .noneMounted ∧ h.mountTable = .error error) ↔
      (∃ code, h.file selfDirectory = .refused code) ∨ ¬ ∃ infos, h.TellsInfos infos := by
  constructor
  · rintro ⟨error, hne, herror⟩
    cases mountTable_eq_iff.1 herror with
    | noSelf hself => exact .inl ⟨_, hself⟩
    | noInfos hself hinfos =>
      refine .inr fun ⟨infos, htells⟩ => ?_
      rw [mountInfos_eq_ok_iff.2 htells] at hinfos
      cases hinfos
    | noneMounted => exact absurd rfl hne
  · intro hfails
    obtain ⟨outcome, hout⟩ := h.exists_tableOutcome
    have htable := hout.mountTable
    cases hout with
    | noSelf => exact ⟨_, by simp, htable⟩
    | noInfos => exact ⟨_, by simp, htable⟩
    | noneMounted hself hinfos | mounted hself hinfos =>
      rcases hfails with ⟨code, hcode⟩ | hnone
      · exact absurd hcode (hself code)
      · exact absurd ⟨_, hinfos⟩ hnone

/-- The table depends on two files of the host. -/
theorem mountTable_congr {h' : Host} (hself : h.file selfDirectory = h'.file selfDirectory)
    (hinfos : h.file mountInfoFile = h'.file mountInfoFile) : h.mountTable = h'.mountTable := by
  rw [mountTable, mountTable, openSelf, openSelf, mountInfos, mountInfos, openFile, openFile,
    hself, hinfos]

end Host

/-! ## Errors of the first step -/

namespace ResolutionError

theorem ofTableError_eq_table_iff {cause error : TableError} :
    ofTableError cause = .table error ↔ error ≠ .noneMounted ∧ cause = error := by
  cases cause with
  | noSelf | noInfos =>
    simp only [ofTableError, table.injEq]
    exact ⟨by rintro rfl; simp, And.right⟩
  | noneMounted => simpa [ofTableError] using fun hne => Ne.symm hne

theorem ofTableError_eq_noneMounted_iff {cause : TableError} :
    ofTableError cause = .noneMounted ↔ cause = .noneMounted := by
  cases cause <;> simp [ofTableError]

/-- No error about the mounts is one about the record. -/
theorem ofTableError_ne_record (cause : TableError) (error : RecordError) :
    ofTableError cause ≠ .record error := by
  cases cause <;> simp [ofTableError]

end ResolutionError

/-! ## Both steps -/

namespace Strategy

/-- The strategies whose answer depends on what is mounted. -/
def ReadsMounts : Strategy → Prop
  | fixed _ | root => False
  | nested .. | process .. | existing .. => True

variable {strategy : Strategy} {h : Host} {t : Table} {subsystem : String}

theorem resolveFile_eq_error {file : Path} {suffix : Option Path} {error : ResolutionError}
    (herror : resolveFile h file suffix t subsystem = .error error) :
    (∃ fault, error = .record fault) ∨ (∃ name, error = .noDestination name) ∨
      error = .notActive subsystem := by
  unfold resolveFile at herror
  cases hr : h.readRecord file with
  | error fault =>
    rw [hr] at herror
    exact .inl ⟨fault, (Except.error.inj herror).symm⟩
  | ok r =>
    rw [hr] at herror
    exact .inr (Record.resolve_eq_error herror)

/-- Against a table that is given, no strategy fails for want of one. -/
theorem resolveIn_eq_error {error : ResolutionError}
    (herror : strategy.resolveIn h t subsystem = .error error) :
    (∃ fault, error = .record fault) ∨ (∃ name, error = .noDestination name) ∨
      error = .notActive subsystem := by
  cases strategy with
  | fixed path => cases herror
  | root => cases herror
  | nested suffix procRoot => exact resolveFile_eq_error herror
  | process pid procRoot => exact resolveFile_eq_error herror
  | existing r suffix => exact .inr (Record.resolve_eq_error herror)

/-- A strategy that reads the mounts takes both steps. -/
theorem resolve_of_readsMounts (hs : strategy.ReadsMounts) :
    strategy.resolve h subsystem =
      h.mountTable.mapError .ofTableError >>= fun t => strategy.resolveIn h t subsystem := by
  cases strategy with
  | fixed path => exact hs.elim
  | root => exact hs.elim
  | nested suffix procRoot | process pid procRoot | existing r suffix => rfl

theorem resolve_of_mountTable_error (hs : strategy.ReadsMounts) {error : TableError}
    (herror : h.mountTable = .error error) :
    strategy.resolve h subsystem = .error (.ofTableError error) := by
  rw [resolve_of_readsMounts hs, herror]
  rfl

theorem resolve_of_mountTable_ok (hs : strategy.ReadsMounts) (ht : h.mountTable = .ok t) :
    strategy.resolve h subsystem = strategy.resolveIn h t subsystem := by
  rw [resolve_of_readsMounts hs, ht]
  rfl

/-- A record is at fault only if there is a mount table. -/
theorem exists_mountTable_of_record (hs : strategy.ReadsMounts) {error : RecordError}
    (herror : strategy.resolve h subsystem = .error (.record error)) :
    ∃ t, h.mountTable = .ok t := by
  cases ht : h.mountTable with
  | error cause =>
    rw [resolve_of_mountTable_error hs ht] at herror
    exact absurd (Except.error.inj herror) (ResolutionError.ofTableError_ne_record cause error)
  | ok t => exact ⟨t, rfl⟩

/-- An error that no table gives comes from the host. -/
theorem resolve_eq_error_iff (hs : strategy.ReadsMounts) {error : ResolutionError}
    (hne : ∀ t, strategy.resolveIn h t subsystem ≠ .error error) :
    strategy.resolve h subsystem = .error error ↔
      ∃ cause, h.mountTable = .error cause ∧ ResolutionError.ofTableError cause = error := by
  cases ht : h.mountTable with
  | error cause =>
    rw [resolve_of_mountTable_error hs ht]
    simp
  | ok t =>
    rw [resolve_of_mountTable_ok hs ht]
    simpa using hne t

theorem resolve_eq_table_iff (hs : strategy.ReadsMounts) {error : TableError} :
    strategy.resolve h subsystem = .error (.table error) ↔
      error ≠ .noneMounted ∧ h.mountTable = .error error := by
  rw [resolve_eq_error_iff hs fun t herror => by simpa using resolveIn_eq_error herror]
  constructor
  · rintro ⟨cause, hcause, htable⟩
    obtain ⟨hne, rfl⟩ := ResolutionError.ofTableError_eq_table_iff.1 htable
    exact ⟨hne, hcause⟩
  · rintro ⟨hne, hcause⟩
    exact ⟨error, hcause, ResolutionError.ofTableError_eq_table_iff.2 ⟨hne, rfl⟩⟩

theorem resolve_eq_noneMounted_iff (hs : strategy.ReadsMounts) :
    strategy.resolve h subsystem = .error .noneMounted ↔ h.mountTable = .error .noneMounted := by
  rw [resolve_eq_error_iff hs fun t herror => by simpa using resolveIn_eq_error herror]
  simp [ResolutionError.ofTableError_eq_noneMounted_iff]

/-- What a host answers for its mounts and what it answers for a target are told apart. A strategy
that reads the mounts fails with an error about the mount infos exactly if a process cannot find
itself or the mount infos cannot be read, the first cause going before the second, and for want of a
hierarchy exactly if they can be read and tell of no version 1 hierarchy. On all other hosts it
answers as against the table of the mount infos, so that a record is at fault only if there is a
hierarchy. What fails in the first two ways depends on two files of the host, not on the strategy or
the subsystem. The strategies that do not read the mounts have an answer on every host. -/
theorem resolve_live_outcome (h : Host) :
    (∀ strategy subsystem, ReadsMounts strategy →
      ((∃ error, strategy.resolve h subsystem = .error (.table error)) ↔
        (∃ code, h.file Host.selfDirectory = .refused code) ∨ ¬ ∃ infos, h.TellsInfos infos) ∧
      (∀ error, strategy.resolve h subsystem = .error (.table error) →
        (∃ code, h.file Host.selfDirectory = .refused code ∧
          error = .noSelf (.ofFault Host.selfDirectory (.errno code))) ∨
        h.OpensSelf ∧ ∃ fault, h.mountInfos = .error fault ∧ error = .noInfos fault) ∧
      (strategy.resolve h subsystem = .error .noneMounted ↔
        h.OpensSelf ∧ ∃ infos, h.TellsInfos infos ∧ ∀ info ∈ infos, info.fsType ≠ "cgroup") ∧
      (∀ infos, h.OpensSelf → h.TellsInfos infos → (∃ info ∈ infos, info.fsType = "cgroup") →
        strategy.resolve h subsystem = strategy.resolveIn h (.ofInfos infos) subsystem) ∧
      ∀ error, strategy.resolve h subsystem = .error (.record error) →
        h.OpensSelf ∧ ∃ infos, h.TellsInfos infos ∧ ∃ info ∈ infos, info.fsType = "cgroup") ∧
    (∀ h' strategy strategy' subsystem subsystem', ReadsMounts strategy → ReadsMounts strategy' →
      h.file Host.selfDirectory = h'.file Host.selfDirectory →
      h.file Host.mountInfoFile = h'.file Host.mountInfoFile →
      (∀ error, strategy.resolve h subsystem = .error (.table error) ↔
        strategy'.resolve h' subsystem' = .error (.table error)) ∧
      (strategy.resolve h subsystem = .error .noneMounted ↔
        strategy'.resolve h' subsystem' = .error .noneMounted)) ∧
    ∀ path subsystem, (fixed path).resolve h subsystem = .ok path ∧
      root.resolve h subsystem = .ok .root := by
  refine ⟨fun strategy subsystem hs => ⟨?failure, ?causes, ?none, ?mounted, ?record⟩, ?same,
    fun path subsystem => ⟨rfl, rfl⟩⟩
  case failure => simpa only [resolve_eq_table_iff hs] using h.exists_mountTable_error_iff
  case causes =>
    intro error herror
    obtain ⟨hne, htable⟩ := (resolve_eq_table_iff hs).1 herror
    cases Host.mountTable_eq_iff.1 htable with
    | noSelf hself => exact .inl ⟨_, hself, rfl⟩
    | noInfos hself hinfos => exact .inr ⟨hself, _, hinfos, rfl⟩
    | noneMounted => exact absurd rfl hne
  case none => exact (resolve_eq_noneMounted_iff hs).trans Host.mountTable_eq_noneMounted_iff
  case mounted =>
    intro infos hself hinfos hsome
    exact resolve_of_mountTable_ok hs (Host.TableOutcome.mounted hself hinfos hsome).mountTable
  case record =>
    intro error herror
    obtain ⟨t, ht⟩ := exists_mountTable_of_record hs herror
    cases Host.mountTable_eq_iff.1 ht with
    | mounted hself hinfos hsome => exact ⟨hself, _, hinfos, hsome⟩
  case same =>
    intro h' strategy strategy' subsystem subsystem' hs hs' hself hinfos
    have htable := Host.mountTable_congr hself hinfos
    exact ⟨fun error => by rw [resolve_eq_table_iff hs, resolve_eq_table_iff hs', htable],
      by rw [resolve_eq_noneMounted_iff hs, resolve_eq_noneMounted_iff hs', htable]⟩

/-- On a host with a version 1 mount a record is resolved against it, and a process without a record
is reported for that. On one with a line that breaks off, every strategy that reads the mounts fails
for the line. -/
theorem resolve_live_outcome_mounted_malformed :
    let mounted := Host.bare.withMountInfos
      (Text.encode "30 25 0:26 / /m rw - cgroup cgroup rw,memory".toList)
    let malformed := Host.bare.withMountInfos (Text.encode "30 25 0:26 / /m rw".toList)
    let r : Record := .ofList [("memory", .ofString "/a")]
    let file := selfRecordFile defaultProcRoot
    (existing r none).resolve mounted "memory" = .ok (.ofString "/a") ∧
    (nested .empty defaultProcRoot).resolve mounted "memory" =
      .error (.record (.cannotOpen file (.errno Errno.noEntry))) ∧
    ∀ strategy subsystem, ReadsMounts strategy →
      strategy.resolve malformed subsystem = .error (.table (.noInfos .malformed)) := by
  intro mounted malformed r file
  let f : MountInfo.Fields :=
    ⟨"30".toList, "25".toList, "0:26".toList, "/".toList, "/m".toList, "rw".toList, [],
      "cgroup".toList, "cgroup".toList, "rw,memory".toList, []⟩
  have hread : MountInfo.read (Text.encode f.text) = .ok [f.info] :=
    f.read_text ⟨by decide, by decide, by simp [f]⟩ (by decide)
  have hagainst : ∀ strategy, ReadsMounts strategy →
      strategy.resolve mounted "memory" =
        strategy.resolveIn mounted (.ofInfos [f.info]) "memory" := by
    intro strategy hs
    obtain ⟨-, -, -, hmounted, -⟩ := (resolve_live_outcome mounted).1 strategy "memory" hs
    exact hmounted [f.info] (Host.opensSelf_withMountInfos _ _)
      (Host.tellsInfos_withMountInfos hread) ⟨f.info, List.mem_singleton_self _, by decide⟩
  refine ⟨?recorded, ?missing, fun strategy subsystem hs => ?malformed⟩
  case recorded =>
    rw [hagainst (existing r none) trivial]
    decide +kernel
  case missing =>
    have hopen : mounted.openFile file = .error (.errno Errno.noEntry) := by
      rw [Host.openFile, if_neg (by decide),
        Host.file_withMountInfos (by decide) (by decide)]
      rfl
    rw [hagainst (nested .empty defaultProcRoot) trivial, resolveIn, resolveFile, Host.readRecord,
      hopen]
    rfl
  case malformed =>
    have hfault : malformed.mountInfos = .error .malformed := by
      rw [Host.mountInfos_withMountInfos]
      exact MountInfo.read_encode_of_not_fields (by decide) (by decide) (by decide)
    obtain ⟨hfails, hcauses, -⟩ := (resolve_live_outcome malformed).1 strategy subsystem hs
    have hnone : ¬ ∃ infos, malformed.TellsInfos infos := by
      rintro ⟨infos, hinfos⟩
      rw [Host.mountInfos_eq_ok_iff.2 hinfos] at hfault
      cases hfault
    obtain ⟨error, herror⟩ := hfails.2 (.inr hnone)
    rcases hcauses error herror with ⟨code, hcode, -⟩ | ⟨-, fault, hfault', rfl⟩
    · exact absurd hcode (Host.opensSelf_withMountInfos _ _ code)
    · obtain rfl := Except.error.inj (hfault.symm.trans hfault')
      exact herror

example :
    let h := (Host.bare.withMountInfos (Text.encode
      "24 1 0:21 / /sys/fs/cgroup rw - cgroup2 cgroup2 rw\n".toList)).setFile
        (selfRecordFile defaultProcRoot) (.content (Text.encode "memory:/a".toList))
    (nested .empty defaultProcRoot).resolve h "memory" = .error .noneMounted := by decide +kernel

end Strategy
end Cgroup
