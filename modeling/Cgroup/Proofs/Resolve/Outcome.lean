import Cgroup.Proofs.Path.Localizing
import Cgroup.Proofs.Resolve.Localize
import Cgroup.Resolve.Strategy

/-!
# How a resolution ends

A record is resolved in two steps, the visit of all its entries and the lookup of the one that was
asked for. `resolve_of_stranded` and `resolve_eq_of_not_stranded` put them together; from there the
three ways in which a resolution ends are told apart: `resolve_eq_ok_iff` says when it succeeds and
with what path, `resolve_eq_error` that no other error occurs.
-/

namespace Cgroup

open Cgroup.Path

variable {r : Record} {t : Table}

namespace Record

/-! ## The entry that is asked for -/

theorem isSome_localPath? {name : String} : (r.localPath? t name).isSome ↔ r.ActiveAt t name := by
  unfold localPath? ActiveAt Table.localPath?
  cases r.get? name with
  | none => simp
  | some path => simp

theorem localPath?_eq_none {name : String} (h : ¬ r.ActiveAt t name) :
    r.localPath? t name = none := by
  rw [← Option.not_isSome_iff_eq_none, isSome_localPath?]
  exact h

theorem localPath?_eq_some {name : String} {path top : Path} (hpath : r.get? name = some path)
    (htop : t.destination? name = some top) :
    r.localPath? t name = some (top.localizeAt path) := by
  rw [localPath?, hpath, Option.bind_some, Table.localPath?, htop, Option.map_some]

/-- The lookup falls back to the named hierarchy where the record is not active for the
subsystem. -/
theorem localPath?_answering (r : Record) (t : Table) (subsystem : String) :
    (r.localPath? t subsystem).or (r.localPath? t (named subsystem)) =
      r.localPath? t (r.answering t subsystem) := by
  unfold answering
  by_cases hactive : r.ActiveAt t subsystem
  · obtain ⟨base, hbase⟩ := Option.isSome_iff_exists.1 (isSome_localPath?.2 hactive)
    rw [if_pos hactive, hbase, Option.some_or]
  · rw [if_neg hactive, localPath?_eq_none hactive, Option.none_or]

theorem answering_of_unrecorded {subsystem : String} (h : (r.get? subsystem).isSome = false)
    (t : Table) : r.answering t subsystem = named subsystem := by
  apply if_neg
  intro hactive
  exact Bool.false_ne_true (h.symm.trans hactive.1)

theorem answering_of_unmounted {subsystem : String} (h : t.destination? subsystem = none)
    (r : Record) : r.answering t subsystem = named subsystem := by
  apply if_neg
  intro hactive
  exact absurd hactive.2 (by simp [h])

theorem activeAt_answering_iff {subsystem : String} :
    r.ActiveAt t (r.answering t subsystem) ↔
      r.ActiveAt t subsystem ∨ r.ActiveAt t (named subsystem) := by
  unfold answering
  by_cases hactive : r.ActiveAt t subsystem
  · simp [hactive]
  · simp [hactive]

/-! ## Both steps -/

/-- A stranded record resolves to the error for the least name, whatever is asked for. -/
theorem resolve_of_stranded (h : ∃ name, r.StrandedAt t name) (suffix : Option Path)
    (subsystem : String) :
    ∃ name, r.StrandedAt t name ∧ (∀ other, r.StrandedAt t other → name ≤ other) ∧
      r.resolve suffix t subsystem = .error (.noDestination name) := by
  obtain ⟨name, hname, hleast, hlocalize⟩ := localize_of_stranded h
  refine ⟨name, hname, hleast, ?_⟩
  rw [resolve, Table.resolve, hlocalize]
  rfl

/-- A record that is stranded nowhere resolves by the entry that is asked for alone. -/
theorem resolve_eq_of_not_stranded (h : ∀ name, ¬ r.StrandedAt t name) (suffix : Option Path)
    (subsystem : String) :
    r.resolve suffix t subsystem =
      match r.localPath? t (r.answering t subsystem) with
      | none => .error (.notActive subsystem)
      | some base => (base.descend suffix).mapError .join := by
  obtain ⟨paths, hpaths, hget⟩ := localize_of_not_stranded h
  rw [← localPath?_answering, ← hget, ← hget, resolve, Table.resolve, hpaths]
  rfl

theorem resolve_of_not_active (h : ∀ name, ¬ r.StrandedAt t name) (suffix : Option Path)
    {subsystem : String} (hactive : ¬ r.ActiveAt t (r.answering t subsystem)) :
    r.resolve suffix t subsystem = .error (.notActive subsystem) := by
  rw [resolve_eq_of_not_stranded h, localPath?_eq_none hactive]

/-- The path of a target goes on from the recorded path, as its mount shows it, with the
suffix. -/
theorem resolve_of_recorded (h : ∀ name, ¬ r.StrandedAt t name) (suffix : Option Path)
    {subsystem : String} {path top : Path} (hpath : r.get? (r.answering t subsystem) = some path)
    (htop : t.destination? (r.answering t subsystem) = some top) :
    r.resolve suffix t subsystem =
      .ok (ofNames (walkFrom (settle (shownComponents top.components path.components))
        (suffix.elim [] Path.components))) := by
  rw [resolve_eq_of_not_stranded h, localPath?_eq_some hpath htop]
  show ((top.localizeAt path).descend suffix).mapError ResolutionError.join = _
  rw [localizeAt_eq_ofNames, descend_ofNames fun _ => isName_of_mem_shown]
  rfl

theorem exists_of_activeAt {name : String} (h : r.ActiveAt t name) :
    ∃ path top, r.get? name = some path ∧ t.destination? name = some top := by
  obtain ⟨path, hpath⟩ := Option.isSome_iff_exists.1 h.1
  obtain ⟨top, htop⟩ := Option.isSome_iff_exists.1 h.2
  exact ⟨path, top, hpath, htop⟩

/-- A record resolves to no error but that the target is in no hierarchy of the subsystem, or that
some hierarchy is not mounted. -/
theorem resolve_eq_error {suffix : Option Path} {subsystem : String} {error : ResolutionError}
    (herror : r.resolve suffix t subsystem = .error error) :
    (∃ name, error = .noDestination name) ∨ error = .notActive subsystem := by
  by_cases hstranded : ∃ name, r.StrandedAt t name
  · obtain ⟨name, -, -, hname⟩ := resolve_of_stranded hstranded suffix subsystem
    rw [hname] at herror
    exact .inl ⟨name, (Except.error.inj herror).symm⟩
  · rw [not_exists] at hstranded
    by_cases hactive : r.ActiveAt t (r.answering t subsystem)
    · obtain ⟨path, top, hpath, htop⟩ := exists_of_activeAt hactive
      rw [resolve_of_recorded hstranded suffix hpath htop] at herror
      cases herror
    · rw [resolve_of_not_active hstranded suffix hactive] at herror
      exact .inr (Except.error.inj herror).symm

/-- When a record resolves, and to which path. -/
theorem resolve_eq_ok_iff {suffix : Option Path} {subsystem : String} {p : Path} :
    r.resolve suffix t subsystem = .ok p ↔
      (∀ name, ¬ r.StrandedAt t name) ∧ ∃ path top,
        r.get? (r.answering t subsystem) = some path ∧
        t.destination? (r.answering t subsystem) = some top ∧
        p = ofNames (walkFrom (settle (shownComponents top.components path.components))
          (suffix.elim [] Path.components)) := by
  constructor
  · intro hok
    have hnone : ∀ name, ¬ r.StrandedAt t name := by
      intro name hname
      obtain ⟨least, -, -, herror⟩ := resolve_of_stranded ⟨name, hname⟩ suffix subsystem
      rw [herror] at hok
      cases hok
    have hactive : r.ActiveAt t (r.answering t subsystem) := by
      by_contra hactive
      rw [resolve_of_not_active hnone suffix hactive] at hok
      cases hok
    obtain ⟨path, top, hpath, htop⟩ := exists_of_activeAt hactive
    -- what it resolves to is known then, so that `p` is that
    rw [resolve_of_recorded hnone suffix hpath htop] at hok
    exact ⟨hnone, path, top, hpath, htop, (Except.ok.inj hok).symm⟩
  · rintro ⟨hnone, path, top, hpath, htop, rfl⟩
    exact resolve_of_recorded hnone suffix hpath htop

end Record

/-! ## The outcome and the value -/

namespace Strategy

/-- The error policy of a resolution against a record. If the record is stranded somewhere, the
least name of that kind is reported, whatever the subsystem and the suffix are. If not, the
subsystem is not active or there is an answer. No other error occurs, and the order in which the
entries of the record are listed does not count. -/
theorem resolveIn_existing_outcome (h : Host) (r : Record) (suffix : Option Path) (t : Table)
    (subsystem : String) :
    ((∃ name, r.StrandedAt t name) →
      ∃ name, r.StrandedAt t name ∧ (∀ other, r.StrandedAt t other → name ≤ other) ∧
        (existing r suffix).resolveIn h t subsystem = .error (.noDestination name)) ∧
    ((∀ name, ¬ r.StrandedAt t name) →
      ¬ r.ActiveAt t subsystem → ¬ r.ActiveAt t (named subsystem) →
        (existing r suffix).resolveIn h t subsystem = .error (.notActive subsystem)) ∧
    ((∀ name, ¬ r.StrandedAt t name) →
      r.ActiveAt t subsystem ∨ r.ActiveAt t (named subsystem) →
        ∃ p, (existing r suffix).resolveIn h t subsystem = .ok p) ∧
    (∀ error, (existing r suffix).resolveIn h t subsystem = .error error →
      (∃ name, error = .noDestination name) ∨ error = .notActive subsystem) ∧
    ∀ entries, entries.Perm r.toList →
      t.resolve entries suffix subsystem = (existing r suffix).resolveIn h t subsystem := by
  refine ⟨fun hstranded => Record.resolve_of_stranded hstranded suffix subsystem,
    fun hnone hs hn => ?inactive, fun hnone hactive => ?active,
    fun error => Record.resolve_eq_error, fun entries hperm => ?order⟩
  case inactive =>
    exact Record.resolve_of_not_active hnone suffix
      (mt Record.activeAt_answering_iff.1 (not_or.2 ⟨hs, hn⟩))
  case active =>
    obtain ⟨path, top, hpath, htop⟩ :=
      Record.exists_of_activeAt (Record.activeAt_answering_iff.2 hactive)
    exact ⟨_, Record.resolve_of_recorded hnone suffix hpath htop⟩
  case order =>
    show t.resolve entries suffix subsystem = t.resolve r.toList suffix subsystem
    rw [Table.resolve, Table.resolve, Table.localize_perm hperm,
      Table.localize_perm (List.Perm.refl r.toList)]

/-- What a resolution against a record gives when it succeeds. The recorded path and the root of
its mount, compared by components, decide where a walk starts, and the walk goes on over the
suffix. The answer spells the names where it ends. -/
theorem resolveIn_existing_eq_walk {h : Host} {r : Record} {suffix : Option Path} {t : Table}
    {subsystem : String} {p : Path}
    (hp : (existing r suffix).resolveIn h t subsystem = .ok p) :
    ∃ path top start, r.get? (r.answering t subsystem) = some path ∧
      t.destination? (r.answering t subsystem) = some top ∧
      (path.components = top.components → start = settle top.components) ∧
      (∀ below, below ≠ [] → path.components = top.components ++ below →
        start = settle below) ∧
      (¬ top.components <+: path.components → start = settle path.components) ∧
      p = ofNames (walkFrom start (suffix.elim [] components)) ∧
      ∀ name ∈ walkFrom start (suffix.elim [] components), IsName name := by
  obtain ⟨-, path, top, hpath, htop, rfl⟩ := Record.resolve_eq_ok_iff.1 hp
  refine ⟨path, top, _, hpath, htop, ?_, ?_, ?_, rfl, ?_⟩
  · intro heq
    rw [heq, shownComponents_self]
  · intro below hne happend
    rw [happend, shownComponents_append _ hne]
  · intro hnot
    rw [shownComponents_of_not_isPrefix hnot]
  · exact isName_of_mem_walkFrom (fun _ => isName_of_mem_shown) fun _ => isName_of_mem_suffix

/-- A path below the root of its mount, both spelled with slashes and dots too many, and a suffix
that leads past the recorded cgroup. -/
theorem resolveIn_existing_eq_walk_dotted :
    let r : Record := .ofList [("memory", .ofString "/docker//4a3b/./app")]
    let t : Table :=
      ⟨[⟨.ofString "/sys/fs/cgroup/memory", .ofString "/docker/4a3b/", ["memory"]⟩], none⟩
    (existing r (some (.ofString "../web/."))).resolveIn .bare t "memory" =
        .ok (.ofString "/web") ∧
      ∃ path top start, r.get? (r.answering t "memory") = some path ∧
        t.destination? (r.answering t "memory") = some top ∧
        (path.components = top.components → start = settle top.components) ∧
        (∀ below, below ≠ [] → path.components = top.components ++ below →
          start = settle below) ∧
        (¬ top.components <+: path.components → start = settle path.components) ∧
        .ofString "/web" = ofNames (walkFrom start (Path.ofString "../web/.").components) ∧
        ∀ name ∈ walkFrom start (Path.ofString "../web/.").components, IsName name := by
  intro r t
  have hp : (existing r (some (.ofString "../web/."))).resolveIn .bare t "memory" =
      .ok (.ofString "/web") := by decide +kernel
  exact ⟨hp, resolveIn_existing_eq_walk hp⟩

end Strategy
end Cgroup
