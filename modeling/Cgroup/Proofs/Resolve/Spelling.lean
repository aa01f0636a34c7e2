import Cgroup.Proofs.Resolve.Containment

/-!
# Answers do not depend on spelling

A path can be spelled in many ways, and what is equal apart from that is given the same answer.
`Record.resolve_congr` says which part of a record and a table a resolution depends on: the
components of the recorded paths, those of the roots of the mounts and those of the suffix. A
placement depends on a table by the mount of the subsystem, `Table.placing?_shape`. Equivalent
records and tables have all of this in common, so that `resolveIn_eq_of_same` puts it together.
-/

namespace Cgroup

open Cgroup.Path

variable {r r' : Record} {t t' : Table} {suffix suffix' : Option Path} {name subsystem : String}

/-! ## What a resolution depends on -/

namespace Record

section

variable (hpath : (r.get? name).map Path.components = (r'.get? name).map Path.components)
  (htop : (t.destination? name).map Path.components = (t'.destination? name).map Path.components)

include htop

theorem destination?_eq_none_congr : t.destination? name = none ↔ t'.destination? name = none := by
  rw [← Option.map_eq_none_iff (f := Path.components), htop, Option.map_eq_none_iff]

include hpath

theorem activeAt_congr : r.ActiveAt t name ↔ r'.ActiveAt t' name := by
  have hget : (r.get? name).isSome = (r'.get? name).isSome := by
    rw [← Option.isSome_map (f := Path.components), hpath, Option.isSome_map]
  have hdest : (t.destination? name).isSome = (t'.destination? name).isSome := by
    rw [← Option.isSome_map (f := Path.components), htop, Option.isSome_map]
  rw [ActiveAt, ActiveAt, hget, hdest]

/-- Whether a path is the root of its hierarchy is told by its components. -/
theorem StrandedAt.congr (h : r.StrandedAt t name) : r'.StrandedAt t' name := by
  obtain ⟨hdest, path, hget, hroot⟩ := h
  refine ⟨(destination?_eq_none_congr htop).1 hdest, ?_⟩
  rw [hget, Option.map_some, eq_comm, Option.map_eq_some_iff] at hpath
  obtain ⟨path', hget', hcs⟩ := hpath
  refine ⟨path', hget', ?_⟩
  rwa [equiv_iff, hcs]

end

/-- What a mount shows of a recorded path is the same path however both are spelled. -/
theorem localPath?_congr
    (hpath : (r.get? name).map Path.components = (r'.get? name).map Path.components)
    (htop : (t.destination? name).map Path.components =
      (t'.destination? name).map Path.components) :
    r.localPath? t name = r'.localPath? t' name := by
  have hactive := activeAt_congr hpath htop
  by_cases ha : r.ActiveAt t name
  · obtain ⟨path, top, hget, hdest⟩ := exists_of_activeAt ha
    obtain ⟨path', top', hget', hdest'⟩ := exists_of_activeAt (hactive.1 ha)
    rw [hget, hget'] at hpath
    rw [hdest, hdest'] at htop
    rw [localPath?_eq_some hget hdest, localPath?_eq_some hget' hdest',
      localizeAt_eq_of_equiv (Option.some.inj htop) (Option.some.inj hpath)]
  · rw [localPath?_eq_none ha, localPath?_eq_none (mt hactive.2 ha)]

theorem exists_ofNames_of_localPath? {base : Path} (h : r.localPath? t name = some base) :
    ∃ names, (∀ n ∈ names, IsName n) ∧ base = ofNames names := by
  have ha : r.ActiveAt t name := isSome_localPath?.1 (by rw [h, Option.isSome_some])
  obtain ⟨path, top, hpath, htop⟩ := exists_of_activeAt ha
  rw [localPath?_eq_some hpath htop, localizeAt_eq_ofNames] at h
  exact ⟨_, fun _ => isName_of_mem_shown, (Option.some.inj h).symm⟩

/-- The components of the recorded paths, of the roots of the mounts and of the suffix decide a
resolution. -/
theorem resolve_congr
    (hpaths : ∀ name, (r.get? name).map Path.components = (r'.get? name).map Path.components)
    (htops : ∀ name, (t.destination? name).map Path.components =
      (t'.destination? name).map Path.components)
    (hsuffix : suffix.map Path.components = suffix'.map Path.components) (subsystem : String) :
    r.resolve suffix t subsystem = r'.resolve suffix' t' subsystem := by
  have hstranded : ∀ name, r.StrandedAt t name ↔ r'.StrandedAt t' name := fun name =>
    ⟨.congr (hpaths name) (htops name), .congr (hpaths name).symm (htops name).symm⟩
  by_cases hs : ∃ name, r.StrandedAt t name
  · -- both report the least of the same names
    have hs' : ∃ name, r'.StrandedAt t' name := by simpa only [hstranded] using hs
    obtain ⟨least, hname, hleast, herror⟩ := resolve_of_stranded hs suffix subsystem
    obtain ⟨least', hname', hleast', herror'⟩ := resolve_of_stranded hs' suffix' subsystem
    have heq : least = least' := le_antisymm (hleast least' ((hstranded least').2 hname'))
      (hleast' least ((hstranded least).1 hname))
    rw [herror, herror', heq]
  · rw [not_exists] at hs
    have hs' : ∀ name, ¬ r'.StrandedAt t' name := by simpa only [hstranded] using hs
    have hlocal : r.localPath? t (r.answering t subsystem) =
        r'.localPath? t' (r'.answering t' subsystem) := by
      rw [← localPath?_answering, ← localPath?_answering,
        localPath?_congr (hpaths _) (htops _), localPath?_congr (hpaths _) (htops _)]
    have helim : suffix.elim [] Path.components = suffix'.elim [] Path.components := by
      cases suffix <;> cases suffix' <;> simp_all
    rw [resolve_eq_of_not_stranded hs, resolve_eq_of_not_stranded hs', hlocal]
    cases hbase : r'.localPath? t' (r'.answering t' subsystem) with
    | none => rfl
    | some base =>
      obtain ⟨names, hnames, rfl⟩ := exists_ofNames_of_localPath? hbase
      simp only [descend_ofNames hnames, helim]

/-- Equivalent records have equivalent paths for each name. -/
theorem get?_equiv (h : r ≈ r') (name : String) :
    (r.get? name).map Path.components = (r'.get? name).map Path.components := by
  have hget : ∀ r : Record, (r.get? name).map Path.components = r.components[name]? := by
    intro r
    rw [components, Std.ExtTreeMap.getElem?_map]
    rfl
  rw [hget, hget, h.1]

end Record

/-! ## What a table is asked for -/

namespace Table

/-- Equivalent tables find equivalent mounts. -/
theorem find?_shape (h : t ≈ t') (name : String) :
    (t.find? name).map Mount.shape = (t'.find? name).map Mount.shape := by
  have hfind : ∀ t : Table, (t.find? name).map Mount.shape =
      (t.mounts.map Mount.shape).find? fun shape => shape.2.2.contains name := by
    intro t
    rw [List.find?_map]
    rfl
  rw [hfind, hfind, h.1]

theorem destination?_equiv (h : t ≈ t') (name : String) :
    (t.destination? name).map Path.components = (t'.destination? name).map Path.components := by
  have hroot := congrArg (Option.map fun shape => shape.2.1) (find?_shape h name)
  rw [Option.map_map, Option.map_map] at hroot
  rw [destination?, destination?, Option.map_map, Option.map_map]
  exact hroot

/-- The mounts below which equivalent tables place a subsystem are equivalent. -/
theorem placing?_shape (h : t ≈ t') (subsystem : String) :
    (t.placing? subsystem).map Mount.shape = (t'.placing? subsystem).map Mount.shape := by
  rw [placing?, placing?, Option.map_or, Option.map_or, find?_shape h, find?_shape h]

theorem mounts_eq_nil_congr (h : t ≈ t') : t.mounts = [] ↔ t'.mounts = [] := by
  rw [← List.map_eq_nil_iff (f := Mount.shape), h.1, List.map_eq_nil_iff]

/-- Equivalent paths are placed alike by equivalent tables. -/
theorem hostPath_equiv (h : t ≈ t') (subsystem : String) {p p' : Path} (hp : p ≈ p') :
    (∃ error, t.hostPath subsystem p = .error error ∧ t'.hostPath subsystem p' = .error error) ∨
      ∃ host host', t.hostPath subsystem p = .ok host ∧ t'.hostPath subsystem p' = .ok host' ∧
        host ≈ host' := by
  have hshape := placing?_shape h subsystem
  cases hm : t.placing? subsystem with
  | none =>
    rw [hm, Option.map_none, eq_comm, Option.map_eq_none_iff] at hshape
    by_cases hempty : t.mounts = []
    · have hempty' := (mounts_eq_nil_congr h).1 hempty
      exact .inl ⟨.noneMounted, hostPath_eq_error_iff.2 (.inl ⟨hempty, rfl⟩),
        hostPath_eq_error_iff.2 (.inl ⟨hempty', rfl⟩)⟩
    · have hempty' := mt (mounts_eq_nil_congr h).2 hempty
      exact .inl ⟨.noDestination subsystem, hostPath_eq_error_iff.2 (.inr ⟨hempty, hm, rfl⟩),
        hostPath_eq_error_iff.2 (.inr ⟨hempty', hshape, rfl⟩)⟩
  | some m =>
    rw [hm, Option.map_some, eq_comm, Option.map_eq_some_iff] at hshape
    obtain ⟨m', hm', hshape⟩ := hshape
    have hpoint : m'.mountPoint.components = m.mountPoint.components := congrArg Prod.fst hshape
    obtain ⟨host, hhost, -, hcs⟩ := exists_hostPath hm p
    obtain ⟨host', hhost', -, hcs'⟩ := exists_hostPath hm' p'
    refine .inr ⟨host, host', hhost, hhost', ?_⟩
    rw [equiv_iff, hcs, hcs', hpoint, equiv_iff.1 hp]

end Table

/-! ## Both -/

namespace Strategy

/-- Equal strategies for a record resolve to one answer against equal tables, however their paths
are spelled: one error, or one path in one spelling. Equal paths are placed on equal paths by equal
tables, or fail in one way. -/
theorem resolveIn_eq_of_same (hsame : (existing r suffix).Same (existing r' suffix'))
    (htable : t ≈ t') (h : Host) (subsystem : String) :
    (existing r suffix).resolveIn h t subsystem = (existing r' suffix').resolveIn h t' subsystem ∧
    ∀ p p', p ≈ p' →
      (∃ error, t.hostPath subsystem p = .error error ∧
        t'.hostPath subsystem p' = .error error) ∨
      ∃ host host', t.hostPath subsystem p = .ok host ∧ t'.hostPath subsystem p' = .ok host' ∧
        host ≈ host' := by
  obtain ⟨hrecord, hsuffix⟩ := hsame
  exact ⟨Record.resolve_congr (Record.get?_equiv hrecord) (Table.destination?_equiv htable)
    hsuffix subsystem, fun p p' => Table.hostPath_equiv htable subsystem⟩

/-- Repeated slashes, slashes at the end and dots between slashes, in a record, in a suffix and in
a table. -/
theorem resolveIn_eq_of_same_dotted :
    let r : Record := .ofList [("pids", .ofString "//"), ("memory", .ofString "/docker/4a3b/app")]
    let r' : Record :=
      .ofList [("pids", .ofString "/."), ("memory", .ofString "/docker//4a3b/./app/")]
    let t : Table :=
      ⟨[⟨.ofString "/sys/fs/cgroup/memory", .ofString "/docker", ["memory"]⟩], none⟩
    let t' : Table :=
      ⟨[⟨.ofString "/sys/fs/cgroup//memory/", .ofString "//docker/.", ["memory"]⟩], none⟩
    let strategy := existing r (some (.ofString "../web"))
    let strategy' := existing r' (some (.ofString "..//web/"))
    strategy.Same strategy' ∧ t ≈ t' ∧
      strategy.resolveIn .bare t "memory" = strategy'.resolveIn .bare t' "memory" ∧
      ∀ p p', p ≈ p' →
        (∃ error, t.hostPath "memory" p = .error error ∧
          t'.hostPath "memory" p' = .error error) ∨
        ∃ host host', t.hostPath "memory" p = .ok host ∧ t'.hostPath "memory" p' = .ok host' ∧
          host ≈ host' := by
  intro r r' t t' strategy strategy'
  have hsame : strategy.Same strategy' := by
    refine ⟨⟨?_, rfl⟩, by decide⟩
    cbv
  have htable : t ≈ t' := by decide
  exact ⟨hsame, htable, resolveIn_eq_of_same hsame htable .bare "memory"⟩

end Strategy
end Cgroup
