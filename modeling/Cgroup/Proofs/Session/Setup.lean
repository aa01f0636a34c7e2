import Cgroup.Proofs.Session.Flag

/-!
# Which hosts are set up in which way

The setup of a host is told by the file systems at a cgroup root and at `unified` below it.
`Host.SetupOutcome` lists what they can be and what follows from that, and `Host.setupAt_eq_iff`
says that a setup is told in this way and in no other.

Nothing else of a host has a part in its setup, so that in a session only a change of one of the two
file systems changes it (`Host.setupAt_after`). A process takes its host for unified exactly if it
had a version 2 hierarchy at the default root when the process was first asked
(`Session.flag_iff_of_mem_answers`).
-/

namespace Cgroup

namespace Host

/-- What can come of asking a host for its setup at `root`. -/
inductive SetupOutcome (h : Host) (root : Path) : Except SetupError Setup → Prop where
  /-- There is nothing at the root. -/
  | nonDefault (hroot : h.fileSystemType? root = none) :
      SetupOutcome h root (.error .nonDefault)
  /-- The file system at the root is withheld. -/
  | withheldRoot {errno : Int} (hroot : h.fileSystemType? root = some (.error errno)) :
      SetupOutcome h root (.error (.withheld root errno))
  /-- It is of a type that says nothing about cgroups. -/
  | undetected {kind : Int} (hroot : h.fileSystemType? root = some (.ok kind))
      (hhierarchy : kind ≠ cgroup2Magic) (htemporary : kind ≠ tmpfsMagic) :
      SetupOutcome h root (.error .undetected)
  /-- It is a version 2 hierarchy. -/
  | unified (hroot : h.fileSystemType? root = some (.ok cgroup2Magic)) :
      SetupOutcome h root (.ok .unified)
  /-- It is a temporary file system with a version 2 hierarchy below it. -/
  | hybrid (hroot : h.fileSystemType? root = some (.ok tmpfsMagic))
      (hbelow : h.fileSystemType? (root.join (.ofString "unified")) = some (.ok cgroup2Magic)) :
      SetupOutcome h root (.ok .hybrid)
  /-- It is a temporary file system with nothing below it, or with something else. -/
  | legacy {kind : Option Int} (hroot : h.fileSystemType? root = some (.ok tmpfsMagic))
      (hbelow : h.fileSystemType? (root.join (.ofString "unified")) = kind.map .ok)
      (hkind : kind ≠ some cgroup2Magic) : SetupOutcome h root (.ok .legacy)
  /-- It is a temporary file system, and the one below it is withheld. -/
  | withheldBelow {errno : Int} (hroot : h.fileSystemType? root = some (.ok tmpfsMagic))
      (hbelow : h.fileSystemType? (root.join (.ofString "unified")) = some (.error errno)) :
      SetupOutcome h root (.error (.withheld (root.join (.ofString "unified")) errno))

variable {h : Host} {root path : Path} {outcome : Except SetupError Setup}

/-! ## What is asked of a host -/

theorem kindAt?_of_told (kind : Option Int) (hkind : h.fileSystemType? path = kind.map .ok) :
    h.kindAt? path = .ok kind := by
  rw [kindAt?, hkind]
  cases kind <;> rfl

theorem kindAt?_of_withheld {errno : Int} (hkind : h.fileSystemType? path = some (.error errno)) :
    h.kindAt? path = .error (.withheld path errno) := by
  rw [kindAt?, hkind]

/-- The file system at a path is withheld unless it is told which one it is, if any. -/
theorem told_or_withheld (h : Host) (path : Path) :
    (∃ kind : Option Int, h.fileSystemType? path = kind.map .ok) ∨
      ∃ errno, h.fileSystemType? path = some (.error errno) := by
  rcases h.fileSystemType? path with _ | errno | kind
  · exact .inl ⟨none, rfl⟩
  · exact .inr ⟨errno, rfl⟩
  · exact .inl ⟨some kind, rfl⟩

/-- On a temporary file system the setup is told by what is at `unified`. -/
theorem setupAt_of_tmpfs (hroot : h.fileSystemType? root = some (.ok tmpfsMagic)) :
    h.setupAt root = (h.kindAt? (root.join (.ofString "unified"))).map fun kind =>
      if kind = some cgroup2Magic then .hybrid else .legacy := by
  have hne : tmpfsMagic ≠ cgroup2Magic := by decide
  rw [setupAt, kindAt?_of_told (some tmpfsMagic) hroot]
  simp only [bind, Except.bind, if_neg hne, if_true]
  rcases h.kindAt? (root.join (.ofString "unified")) with error | _ | kind
  · rfl
  · rfl
  · simp [Except.map, pure, Except.pure]

theorem SetupOutcome.setupAt (hout : h.SetupOutcome root outcome) : h.setupAt root = outcome := by
  cases hout with
  | nonDefault hroot =>
    rw [Host.setupAt, kindAt?_of_told none hroot]
    rfl
  | withheldRoot hroot =>
    rw [Host.setupAt, kindAt?_of_withheld hroot]
    rfl
  | @undetected kind hroot hhierarchy htemporary =>
    rw [Host.setupAt, kindAt?_of_told (some kind) hroot]
    simp [bind, Except.bind, hhierarchy, htemporary]
  | unified hroot =>
    rw [Host.setupAt, kindAt?_of_told (some cgroup2Magic) hroot]
    rfl
  | hybrid hroot hbelow =>
    rw [setupAt_of_tmpfs hroot, kindAt?_of_told (some cgroup2Magic) hbelow]
    rfl
  | @legacy kind hroot hbelow hkind =>
    rw [setupAt_of_tmpfs hroot, kindAt?_of_told kind hbelow, Except.map, if_neg hkind]
  | withheldBelow hroot hbelow =>
    rw [setupAt_of_tmpfs hroot, kindAt?_of_withheld hbelow]
    rfl

/-! ## The outcome -/

/-- Every host gives one of these answers. -/
theorem exists_setupOutcome (h : Host) (root : Path) : ∃ outcome, h.SetupOutcome root outcome := by
  rcases hroot : h.fileSystemType? root with _ | errno | kind
  · exact ⟨_, .nonDefault hroot⟩
  · exact ⟨_, .withheldRoot hroot⟩
  · by_cases hhierarchy : kind = cgroup2Magic
    · exact ⟨_, .unified (hhierarchy ▸ hroot)⟩
    by_cases htemporary : kind = tmpfsMagic
    · -- only here the host is asked for a second file system
      rw [htemporary] at hroot
      rcases told_or_withheld h (root.join (.ofString "unified")) with
        ⟨found, hbelow⟩ | ⟨errno, hbelow⟩
      · by_cases hfound : found = some cgroup2Magic
        · rw [hfound] at hbelow
          exact ⟨_, .hybrid hroot hbelow⟩
        · exact ⟨_, .legacy hroot hbelow hfound⟩
      · exact ⟨_, .withheldBelow hroot hbelow⟩
    · exact ⟨_, .undetected hroot hhierarchy htemporary⟩

/-- The setup of a host is told by the file systems at the root and at `unified` below it, and by
nothing else of them than their types, or that they are withheld. -/
theorem setupAt_eq_iff : h.setupAt root = outcome ↔ h.SetupOutcome root outcome := by
  refine ⟨fun heq => ?_, SetupOutcome.setupAt⟩
  obtain ⟨outcome', hout⟩ := h.exists_setupOutcome root
  obtain rfl := heq.symm.trans hout.setupAt
  exact hout

/-- A host counts as unified exactly if there is a version 2 hierarchy at the default root. -/
theorem isUnified_iff_fileSystemType? :
    h.isUnified = true ↔ h.fileSystemType? cgroupRoot = some (.ok cgroup2Magic) := by
  rw [isUnified_iff, setup, setupAt_eq_iff]
  constructor
  · intro hout
    cases hout with
    | unified hroot => exact hroot
  · exact .unified

end Host

/-! ## Sessions -/

/-- An action leaves the file systems alone that tell the setup at `root`. -/
def Action.Spares (root : Path) : Action → Prop
  | .setFileSystem path _ => path ≠ root ∧ path ≠ root.join (.ofString "unified")
  | _ => True

namespace Host

variable {h : Host} {root : Path}

theorem kindAt?_congr {h' : Host} {path : Path} (hpath : h.fileSystem path = h'.fileSystem path) :
    h.kindAt? path = h'.kindAt? path := by
  rw [kindAt?, kindAt?, fileSystemType?, fileSystemType?, hpath]

/-- The setup depends on two file systems of the host. -/
theorem setupAt_congr {h' : Host} (hroot : h.fileSystem root = h'.fileSystem root)
    (hbelow : h.fileSystem (root.join (.ofString "unified")) =
      h'.fileSystem (root.join (.ofString "unified"))) : h.setupAt root = h'.setupAt root := by
  rw [setupAt, setupAt, kindAt?_congr hroot, kindAt?_congr hbelow]

theorem setupAt_change {action : Action} (hspares : action.Spares root) :
    (h.change action).setupAt root = h.setupAt root := by
  cases action with
  | setFileSystem path entry =>
    obtain ⟨hroot, hbelow⟩ := hspares
    exact setupAt_congr (if_neg hroot.symm) (if_neg hbelow.symm)
  | _ => rfl

/-- The setup stays the same as long as these two file systems do, whatever else happens. -/
theorem setupAt_after {actions : List Action} (hspare : ∀ action ∈ actions, action.Spares root) :
    (h.after actions).setupAt root = h.setupAt root := by
  induction actions generalizing h with
  | nil => rfl
  | cons action actions ih =>
    rw [List.forall_mem_cons] at hspare
    show ((h.change action).after actions).setupAt root = h.setupAt root
    rw [ih hspare.2, setupAt_change hspare.1]

end Host

/-- Whatever a process is asked, and whenever, it takes its host for unified exactly if there was a
version 2 hierarchy at the default root when it was first asked. -/
theorem Session.flag_iff_of_mem_answers {h : Host} {actions : List Action} {flag : Bool}
    (hflag : .unified flag ∈ (start h).answers actions) :
    flag = true ↔ (h.after (actions.take (firstAsked actions))).fileSystemType? Host.cgroupRoot =
      some (.ok Host.cgroup2Magic) := by
  rw [eq_of_unified_mem_answers hflag, Host.isUnified_iff_fileSystemType?]

end Cgroup
