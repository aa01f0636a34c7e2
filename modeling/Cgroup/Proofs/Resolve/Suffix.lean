import Cgroup.Proofs.Path.Descending
import Cgroup.Proofs.Resolve.Outcome
import Cgroup.Proofs.Resolve.RecordFile

/-!
# Suffixes

What a suffix has a part in. Whether a record resolves is settled without it; if it does, the suffix
goes on with the walk from where the path without a suffix ends (`Record.resolve_suffix`).
Suffixes that are joined are therefore walked one after the other (`resolveIn_join`), and one that
stays below its start ends below the cgroup of the target (`resolveIn_of_staysBelow`).
-/

namespace Cgroup

open Cgroup.Path

variable {r : Record} {t : Table} {subsystem : String}

namespace Record

/-- A record fails with all suffixes alike, or resolves with each of them to where its walk ends,
which starts at the same names for all. -/
theorem resolve_suffix (r : Record) (t : Table) (subsystem : String) :
    (∃ error, ∀ suffix, r.resolve suffix t subsystem = .error error) ∨
      ∃ names, (∀ name ∈ names, IsName name) ∧ ∀ suffix,
        r.resolve suffix t subsystem =
          .ok (ofNames (walkFrom names (suffix.elim [] Path.components))) := by
  by_cases hstranded : ∃ name, r.StrandedAt t name
  · -- the visit of the entries has failed before the suffix is looked at
    obtain ⟨name, -, -, hlocalize⟩ := localize_of_stranded hstranded
    refine .inl ⟨.noDestination name, fun suffix => ?_⟩
    rw [resolve, Table.resolve, hlocalize]
    rfl
  · rw [not_exists] at hstranded
    by_cases hactive : r.ActiveAt t (r.answering t subsystem)
    · obtain ⟨path, top, hpath, htop⟩ := exists_of_activeAt hactive
      exact .inr ⟨_, fun _ => isName_of_mem_shown,
        fun suffix => resolve_of_recorded hstranded suffix hpath htop⟩
    · exact .inl ⟨_, fun suffix => resolve_of_not_active hstranded suffix hactive⟩

/-- Suffixes that are walked alike are no different. -/
theorem resolve_eq_of_walkFrom {suffix suffix' : Option Path}
    (hwalk : ∀ names, walkFrom names (suffix.elim [] Path.components) =
      walkFrom names (suffix'.elim [] Path.components)) :
    r.resolve suffix t subsystem = r.resolve suffix' t subsystem := by
  rcases r.resolve_suffix t subsystem with ⟨error, herror⟩ | ⟨names, -, hok⟩
  · rw [herror, herror]
  · rw [hok, hok, hwalk]

/-- A suffix that is joined to another is read from the path that the record resolves to with the
other. -/
theorem resolve_join {a b p : Path} (hb : b.isAbsolute = false)
    (hp : r.resolve (some a) t subsystem = .ok p) :
    r.resolve (some (a.join b)) t subsystem = .ok (p.join b).clean := by
  rcases r.resolve_suffix t subsystem with ⟨error, herror⟩ | ⟨names, hnames, hok⟩
  · rw [herror] at hp
    cases hp
  · obtain rfl := Except.ok.inj ((hok (some a)).symm.trans hp)
    have hwalked : ∀ name ∈ walkFrom names a.components, IsName name :=
      isName_of_mem_walkFrom hnames fun _ => isName_of_normal_mem_components
    rw [hok]
    show Except.ok (ofNames (walkFrom names (a.join b).components)) = _
    rw [walkFrom_join names a hb, ← clean_join_ofNames hwalked hb]
    rfl

/-- Without a suffix, a record resolves to what the mount shows of the recorded path. -/
theorem localPath?_of_resolve {p : Path} (hp : r.resolve none t subsystem = .ok p) :
    r.localPath? t (r.answering t subsystem) = some p := by
  obtain ⟨-, path, top, hpath, htop, rfl⟩ := resolve_eq_ok_iff.1 hp
  rw [localPath?_eq_some hpath htop, localizeAt_eq_ofNames]
  rfl

/-- With a suffix that stays below its start, the names of the suffix are added to those of the path
that the record resolves to without it. -/
theorem exists_resolve_of_staysBelow {suffix p : Path} (hsuffix : StaysBelow suffix.components)
    (hp : r.resolve none t subsystem = .ok p) :
    ∃ q, r.resolve (some suffix) t subsystem = .ok q ∧
      q.components = p.components ++ (settle suffix.components).map .normal := by
  rcases r.resolve_suffix t subsystem with ⟨error, herror⟩ | ⟨names, hnames, hok⟩
  · rw [herror] at hp
    cases hp
  · obtain rfl : ofNames names = p := Except.ok.inj ((hok none).symm.trans hp)
    have hwalk : walkFrom names suffix.components = names ++ settle suffix.components :=
      walkFrom_of_staysBelow hsuffix names
    have hwalked : ∀ name ∈ names ++ settle suffix.components, IsName name := by
      rw [← hwalk]
      exact isName_of_mem_walkFrom hnames fun _ => isName_of_normal_mem_components
    refine ⟨_, hok (some suffix), ?_⟩
    show (ofNames (walkFrom names suffix.components)).components = _
    rw [hwalk, components_ofNames hwalked, components_ofNames hnames, List.map_append,
      List.cons_append]

end Record

namespace Strategy

/-- A suffix decides neither whether a record resolves nor the error if it does not. A relative path
that is joined to a suffix is joined to what the record resolves to with that suffix, and the whole
is cleaned. An empty suffix, `.` and `/` are no suffix, and a slash in front of a suffix does not
count. -/
theorem resolveIn_join (h : Host) (r : Record) (t : Table) (subsystem : String) :
    (∀ suffix suffix',
      ((∃ p, (existing r suffix).resolveIn h t subsystem = .ok p) ↔
        ∃ p, (existing r suffix').resolveIn h t subsystem = .ok p) ∧
      ∀ error, (existing r suffix).resolveIn h t subsystem = .error error ↔
        (existing r suffix').resolveIn h t subsystem = .error error) ∧
    (∀ a b p, b.isAbsolute = false → (existing r (some a)).resolveIn h t subsystem = .ok p →
      (existing r (some (a.join b))).resolveIn h t subsystem = .ok (p.join b).clean) ∧
    (∀ suffix ∈ [Path.empty, .ofString ".", .ofString "/"],
      (existing r (some suffix)).resolveIn h t subsystem =
        (existing r none).resolveIn h t subsystem) ∧
    ∀ suffix : Path, (existing r (some ⟨'/' :: suffix.chars⟩)).resolveIn h t subsystem =
      (existing r (some suffix)).resolveIn h t subsystem := by
  refine ⟨fun suffix suffix' => ?outcome, fun a b p hb hp => Record.resolve_join hb hp,
    fun suffix hsuffix => Record.resolve_eq_of_walkFrom fun names => ?none,
    fun suffix => Record.resolve_eq_of_walkFrom fun names => ?slash⟩
  case outcome =>
    show ((∃ p, r.resolve suffix t subsystem = .ok p) ↔ ∃ p, r.resolve suffix' t subsystem = .ok p) ∧
      ∀ error, r.resolve suffix t subsystem = .error error ↔
        r.resolve suffix' t subsystem = .error error
    rcases r.resolve_suffix t subsystem with ⟨error, herror⟩ | ⟨names, -, hok⟩
    · simp [herror]
    · simp [hok]
  case none =>
    simp only [List.mem_cons, List.not_mem_nil, or_false] at hsuffix
    rcases hsuffix with rfl | rfl | rfl <;> rfl
  case slash => exact walkFrom_cons_slash names suffix.chars

example :
    let r : Record := .ofList [("memory", .ofString "/docker")]
    let t : Table := ⟨[⟨.ofString "/sys/fs/cgroup/memory", .root, ["memory"]⟩], none⟩
    (existing r (some (.ofString "/../../a"))).resolveIn .bare t "memory" = .ok (.ofString "/a") ∧
      (existing r (some ((Path.ofString "/../../a").join (.ofString "../..//b")))).resolveIn .bare t
        "memory" = .ok (.ofString "/b") := by cbv

/-- A suffix of which no beginning has more `..` than names leads nowhere but to the cgroup of the
target and below it, by the names of its own clean spelling. If the record is the one of the calling
process, the same holds of the strategy for that process. -/
theorem resolveIn_of_staysBelow {h : Host} {r : Record} {t : Table} {subsystem : String}
    {suffix p : Path} (hsuffix : StaysBelow suffix.components)
    (hp : (existing r none).resolveIn h t subsystem = .ok p) :
    r.localPath? t (r.answering t subsystem) = some p ∧
    ∃ q below, suffix.clean.components = .root :: below ∧ q.components = p.components ++ below ∧
      p.components <+: q.components ∧
      (existing r (some suffix)).resolveIn h t subsystem = .ok q ∧
      ∀ procRoot, h.readRecord (selfRecordFile procRoot) = .ok r →
        (nested suffix procRoot).resolveIn h t subsystem = .ok q := by
  obtain ⟨q, hq, hcs⟩ := Record.exists_resolve_of_staysBelow hsuffix hp
  refine ⟨Record.localPath?_of_resolve hp, q, _, components_clean suffix, hcs, ?_, hq,
    fun procRoot hr => ?_⟩
  · rw [hcs]
    exact List.prefix_append _ _
  · exact (resolveFile_of_ok hr (some suffix) t subsystem).trans hq

/-- A suffix that goes back and forth, with the record of the calling process. -/
theorem resolveIn_of_staysBelow_dotted :
    let entry : Entry := .hierarchy 7 ["memory"] (.ofString "/docker/4a3b/app")
    let h := Host.bare.setFile (.ofString "/proc/self/cgroup") (.content (Text.encode entry.render))
    let r : Record := .ofEntries [entry]
    let t : Table :=
      ⟨[⟨.ofString "/sys/fs/cgroup/memory", .ofString "/docker/4a3b", ["memory"]⟩], none⟩
    let suffix : Path := .ofString "/./jobs//7/../../web/"
    let p : Path := .ofString "/app"
    StaysBelow suffix.components ∧ (existing r none).resolveIn h t "memory" = .ok p ∧
      h.readRecord (selfRecordFile (.ofString "/proc")) = .ok r ∧
      r.localPath? t (r.answering t "memory") = some p ∧
      ∃ q below, suffix.clean.components = .root :: below ∧ q.components = p.components ++ below ∧
        p.components <+: q.components ∧
        (existing r (some suffix)).resolveIn h t "memory" = .ok q ∧
        ∀ procRoot, h.readRecord (selfRecordFile procRoot) = .ok r →
          (nested suffix procRoot).resolveIn h t "memory" = .ok q := by
  intro entry h r t suffix p
  have hsuffix : StaysBelow suffix.components := by decide +kernel
  have hp : (existing r none).resolveIn h t "memory" = .ok p := by decide +kernel
  have hr : h.readRecord (selfRecordFile (.ofString "/proc")) = .ok r := by
    have hentries : Record.entries (selfRecordFile (.ofString "/proc"))
        (Text.encode entry.render) = .ok [entry] := by decide +kernel
    have hopen : h.openFile (selfRecordFile (.ofString "/proc")) =
        .ok (.content (Text.encode entry.render)) := by decide +kernel
    rw [Host.readRecord_of_content hopen, Record.read, hentries]
    rfl
  exact ⟨hsuffix, hp, hr, resolveIn_of_staysBelow hsuffix hp⟩

end Strategy
end Cgroup
