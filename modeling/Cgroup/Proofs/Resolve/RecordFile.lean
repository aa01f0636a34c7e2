import Cgroup.Proofs.Record.Reading
import Cgroup.Resolve.Strategy

/-!
# Strategies that read a record

A strategy for a process on the host reads one file and then does what the strategy for a record
that has been read before does. The file is told by its text (`chars_selfRecordFile`,
`chars_processRecordFile`), and the host matters by what it holds there alone
(`resolveFile_congr`). Where the text of the record comes from shows in no answer but an error
about it (`read_of_read`), so that two files with one text give one answer:
`resolveIn_of_recordFile` has all of it.
-/

namespace Cgroup

/-! ## The text of a file -/

namespace Path

/-- The text of a directory in front of a name in it: its own, and a slash unless it is empty or
ends in one. -/
def stem (p : Path) : List Char :=
  if p.chars = [] ∨ p.chars.getLast? = some '/' then p.chars else p.chars ++ ['/']

theorem chars_join (base : Path) {p : Path} (h : p.isAbsolute = false) :
    (base.join p).chars = base.stem ++ p.chars := by
  rw [join, if_neg (by simp [h]), stem]
  split <;> simp

/-- A file in a directory that is named by one text. -/
theorem chars_join_join (base : Path) {dir file : Path} (hdir : dir.isAbsolute = false)
    (hne : dir.chars ≠ []) (hend : dir.chars.getLast? ≠ some '/')
    (hfile : file.isAbsolute = false) :
    ((base.join dir).join file).chars = base.stem ++ dir.chars ++ '/' :: file.chars := by
  have hstem : (base.join dir).stem = base.stem ++ dir.chars ++ ['/'] := by
    rw [stem, chars_join base hdir, if_neg]
    rw [List.getLast?_append_of_ne_nil _ hne]
    simp [hne, hend]
  rw [chars_join _ hfile, hstem, List.append_assoc _ ['/'], List.singleton_append]

end Path

theorem Numeral.slash_not_mem_signed (i : Int) : '/' ∉ signed i := by
  intro h
  rcases eq_minus_or_isDigit_of_mem_signed h with hminus | hdigit
  · exact absurd hminus (by decide)
  · exact absurd hdigit (by decide)

theorem Numeral.signed_ne_nil (i : Int) : signed i ≠ [] := by
  unfold signed
  split
  · exact List.cons_ne_nil _ _
  · exact digits_ne_nil _

namespace Strategy

variable (procRoot : Path)

theorem chars_selfRecordFile :
    (selfRecordFile procRoot).chars = procRoot.stem ++ "self/cgroup".toList := by
  rw [selfRecordFile, Path.chars_join_join procRoot (by decide) (by decide) (by decide) (by decide),
    List.append_assoc]
  rfl

theorem chars_processRecordFile (pid : Int32) :
    (processRecordFile pid procRoot).chars =
      procRoot.stem ++ Numeral.signed pid.toInt ++ "/cgroup".toList := by
  have hslash := Numeral.slash_not_mem_signed pid.toInt
  have hrel : (Path.mk (Numeral.signed pid.toInt)).isAbsolute = false := by
    rw [Path.isAbsolute, decide_eq_false_iff_not]
    exact fun h => hslash (List.mem_of_mem_head? h)
  have hend : (Numeral.signed pid.toInt).getLast? ≠ some '/' :=
    fun h => hslash (List.mem_of_mem_getLast? h)
  rw [processRecordFile,
    Path.chars_join_join procRoot hrel (Numeral.signed_ne_nil _) hend (by decide)]
  rfl

end Strategy

/-! ## Reading the file -/

/-- Two hosts that hold the same at a path have the same record there. -/
theorem Host.readRecord_congr {h h' : Host} {file : Path} (heq : h.file file = h'.file file) :
    h.readRecord file = h'.readRecord file := by
  rw [readRecord, readRecord, openFile, openFile, heq]

theorem Host.readRecord_of_content {h : Host} {file : Path} {bytes : List UInt8}
    (hopen : h.openFile file = .ok (.content bytes)) :
    h.readRecord file = Record.read file bytes := by
  rw [readRecord, hopen]
  rfl

/-- A record is the same wherever its text comes from. -/
theorem Record.read_of_read {source : Path} {bytes : List UInt8} {r : Record}
    (hr : read source bytes = .ok r) (source' : Path) : read source' bytes = .ok r :=
  read_eq_ok_iff.2 (read_eq_ok_iff.1 hr)

/-! ## Resolving what was read -/

/-- An empty suffix is no suffix. -/
theorem Path.descend_some_empty (base : Path) : base.descend (some empty) = base.descend none := by
  rw [descend, descend, if_pos rfl]

theorem Record.resolve_some_empty (r : Record) (t : Table) (subsystem : String) :
    r.resolve (some .empty) t subsystem = r.resolve none t subsystem := by
  simp only [resolve, Table.resolve, Path.descend_some_empty]

namespace Strategy

variable {h h' : Host} {file : Path}

theorem resolveFile_of_ok {r : Record} (hr : h.readRecord file = .ok r) (suffix : Option Path)
    (t : Table) (subsystem : String) :
    resolveFile h file suffix t subsystem = r.resolve suffix t subsystem := by
  rw [resolveFile, hr]
  rfl

/-- A record that cannot be read is reported whatever is mounted. -/
theorem resolveFile_of_error {error : RecordError} (herror : h.readRecord file = .error error)
    (suffix : Option Path) (t : Table) (subsystem : String) :
    resolveFile h file suffix t subsystem = .error (.record error) := by
  rw [resolveFile, herror]
  rfl

theorem resolveFile_congr (heq : h.file file = h'.file file) (suffix : Option Path) (t : Table)
    (subsystem : String) :
    resolveFile h file suffix t subsystem = resolveFile h' file suffix t subsystem := by
  rw [resolveFile, resolveFile, Host.readRecord_congr heq]

/-- The strategies for the calling process and for another one read the files with the given texts
and nothing else. If the file holds a record, they answer as the strategy for that record does, the
first one with its suffix and the second without one; if not, they report what is wrong with it
whatever is asked for. All other strategies read nothing. If both files hold the same text and it
is a record, the calling process without a suffix and the other process have the same cgroups. -/
theorem resolveIn_of_recordFile (suffix procRoot : Path) (pid : Int32) :
    ((selfRecordFile procRoot).chars = procRoot.stem ++ "self/cgroup".toList ∧
      (processRecordFile pid procRoot).chars =
        procRoot.stem ++ Numeral.signed pid.toInt ++ "/cgroup".toList) ∧
    (∀ h : Host,
      (∀ r, h.readRecord (selfRecordFile procRoot) = .ok r → ∀ t subsystem,
        (nested suffix procRoot).resolveIn h t subsystem =
          (existing r (some suffix)).resolveIn h t subsystem) ∧
      (∀ error, h.readRecord (selfRecordFile procRoot) = .error error → ∀ t subsystem,
        (nested suffix procRoot).resolveIn h t subsystem = .error (.record error)) ∧
      (∀ r, h.readRecord (processRecordFile pid procRoot) = .ok r → ∀ t subsystem,
        (process pid procRoot).resolveIn h t subsystem =
          (existing r none).resolveIn h t subsystem) ∧
      ∀ error, h.readRecord (processRecordFile pid procRoot) = .error error → ∀ t subsystem,
        (process pid procRoot).resolveIn h t subsystem = .error (.record error)) ∧
    (∀ h h' : Host,
      (h.file (selfRecordFile procRoot) = h'.file (selfRecordFile procRoot) → ∀ t subsystem,
        (nested suffix procRoot).resolveIn h t subsystem =
          (nested suffix procRoot).resolveIn h' t subsystem) ∧
      (h.file (processRecordFile pid procRoot) = h'.file (processRecordFile pid procRoot) →
        ∀ t subsystem, (process pid procRoot).resolveIn h t subsystem =
          (process pid procRoot).resolveIn h' t subsystem) ∧
      ∀ t subsystem path r suffix',
        (fixed path).resolveIn h t subsystem = (fixed path).resolveIn h' t subsystem ∧
        root.resolveIn h t subsystem = root.resolveIn h' t subsystem ∧
        (existing r suffix').resolveIn h t subsystem =
          (existing r suffix').resolveIn h' t subsystem) ∧
    ∀ (h : Host) bytes r, h.openFile (selfRecordFile procRoot) = .ok (.content bytes) →
      h.openFile (processRecordFile pid procRoot) = .ok (.content bytes) →
      Record.ofBytes bytes = .ok r → ∀ t subsystem,
        (process pid procRoot).resolveIn h t subsystem =
          (nested .empty procRoot).resolveIn h t subsystem := by
  refine ⟨⟨chars_selfRecordFile procRoot, chars_processRecordFile procRoot pid⟩,
    fun h => ⟨fun r hr => resolveFile_of_ok hr _, fun error herror => resolveFile_of_error herror _,
      fun r hr => resolveFile_of_ok hr _, fun error herror => resolveFile_of_error herror _⟩,
    fun h h' => ⟨fun heq => resolveFile_congr heq _, fun heq => resolveFile_congr heq _,
      fun t subsystem path r suffix' => ⟨rfl, rfl, rfl⟩⟩, ?_⟩
  intro h bytes r hself hprocess hr t subsystem
  -- the record of either file is `r`, which names neither
  have hr_self : h.readRecord (selfRecordFile procRoot) = .ok r := by
    rw [Host.readRecord_of_content hself, Record.read_of_read hr]
  have hr_process : h.readRecord (processRecordFile pid procRoot) = .ok r := by
    rw [Host.readRecord_of_content hprocess, Record.read_of_read hr]
  calc (process pid procRoot).resolveIn h t subsystem
      = r.resolve none t subsystem := resolveFile_of_ok hr_process none t subsystem
    _ = r.resolve (some .empty) t subsystem := (r.resolve_some_empty t subsystem).symm
    _ = (nested .empty procRoot).resolveIn h t subsystem :=
      (resolveFile_of_ok hr_self (some .empty) t subsystem).symm

example :
    let h := Host.bare.setFile (.ofString "/proc/7/cgroup")
      (.content (Text.encode "memory:/a".toList))
    (process 7 (.ofString "/proc/")).resolveIn h ⟨[], none⟩ "memory" =
      .error (.record (.malformed .fields "memory:/a".toList)) := by cbv

end Strategy
end Cgroup
