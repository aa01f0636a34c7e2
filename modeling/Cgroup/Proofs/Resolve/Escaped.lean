import Cgroup.Proofs.Mount.Escaping
import Cgroup.Proofs.Path.Canonical
import Cgroup.Proofs.Resolve.Overlap

/-!
# Recorded paths below an escaped root

A record has the path of a cgroup as it is, a mountinfo line has the root of a mount with escapes.
The two are compared as they are read, so that a path is recognised to be below the root if there
was nothing to escape. `Strategy.resolveIn_below_iff_isPlain` says so: otherwise the cgroup keeps
its whole path, or it is not found at all.
-/

namespace Cgroup

open Cgroup.Path

namespace Path

/-! ## Components below a root -/

/-- Names behind a path add themselves to its components. -/
theorem components_append_names {top : Path} (htop : top.chars ≠ []) {names : List (List Char)}
    (hnames : ∀ name ∈ names, IsName name) :
    (Path.mk (top.chars ++ '/' :: ['/'].intercalate names)).components =
      top.components ++ names.map .normal := by
  rw [components, lead_append_slash htop, segments_append, segments_intercalate hnames,
    ← List.append_assoc]
  rfl

theorem settle_root_names (names : List (List Char)) :
    settle (.root :: names.map .normal) = names := by
  show walkFrom [] (names.map .normal) = names
  rw [walkFrom_map_normal, List.nil_append]

/-- Only the mount of a root shows the names below it as they are. -/
theorem eq_of_settle_shownComponents {shown : List Component} {names below : List (List Char)}
    (hnames : names ≠ [])
    (h : settle (shownComponents shown (.root :: (names ++ below).map .normal)) = below) :
    shown = .root :: names.map .normal := by
  have hwhole : settle (.root :: (names ++ below).map .normal) ≠ below := by
    rw [settle_root_names]
    exact fun heq => hnames (List.append_left_eq_self.1 heq)
  by_cases hbelow : IsBelow shown (.root :: (names ++ below).map .normal)
  · obtain ⟨rest, hne, hrest⟩ := hbelow
    rw [hrest, shownComponents_append shown hne] at h
    cases shown with
    | nil =>
      -- nothing is left out
      rw [List.nil_append] at hrest
      exact absurd (hrest ▸ h) hwhole
    | cons c shown =>
      obtain ⟨rfl, hnames'⟩ := List.cons.inj hrest
      obtain ⟨names', below', happend, rfl, rfl⟩ := List.map_eq_append_iff.1 hnames'
      rw [settle, walkFrom_map_normal, List.nil_append] at h
      obtain rfl := h
      rw [List.append_cancel_right happend]
  · rw [shownComponents_of_not_isBelow hbelow] at h
    exact absurd h hwhole

end Path

/-! ## One mount -/

/-- The only mount of a table is that of the subsystems that its info offers. -/
theorem Table.destination?_ofInfos_singleton {info : MountInfo} {subsystem : String} {root : Path} :
    (ofInfos [info]).destination? subsystem = some root ↔
      info.fsType = Mount.fsType ∧ info.Offers subsystem ∧ info.root = root := by
  rw [destination?, find?_ofInfos, Option.map_map, Option.map_eq_some_iff]
  simp only [List.find?_singleton, Mount.hasSubsystem_ofInfo, decide_eq_true_eq,
    Option.ite_none_right_eq_some, Option.some.injEq]
  constructor
  · rintro ⟨_, ⟨⟨htype, hoffers⟩, rfl⟩, hroot⟩
    exact ⟨htype, hoffers, hroot⟩
  · rintro ⟨htype, hoffers, hroot⟩
    exact ⟨info, ⟨⟨htype, hoffers⟩, rfl⟩, hroot⟩

/-- A recorded subsystem that is not at the root resolves exactly if nothing is stranded, and then
to what its mount shows. -/
theorem Record.resolve_eq_ok_iff_of_get? {r : Record} {t : Table} {subsystem : String}
    {path p : Path} (hpath : r.get? subsystem = some path) (hroot : ¬ path ≈ Path.root) :
    r.resolve none t subsystem = .ok p ↔ (∀ name, ¬ r.StrandedAt t name) ∧
      ∃ top, t.destination? subsystem = some top ∧
        p = ofNames (settle (shownComponents top.components path.components)) := by
  constructor
  · intro hp
    have hnone := (resolve_eq_ok_iff.1 hp).1
    cases htop : t.destination? subsystem with
    | none => exact absurd ⟨htop, path, hpath, hroot⟩ (hnone subsystem)
    | some top => exact ⟨hnone, top, rfl, eq_ofNames_of_resolve hpath htop hp⟩
  · rintro ⟨hnone, top, htop, rfl⟩
    have hanswering : r.answering t subsystem = subsystem :=
      if_pos ⟨by rw [hpath, Option.isSome_some], by rw [htop, Option.isSome_some]⟩
    refine resolve_eq_ok_iff.2 ⟨hnone, path, top, ?_, ?_, rfl⟩
    · rw [hanswering, hpath]
    · rw [hanswering, htop]

/-! ## A root with escapes -/

namespace MountInfo

variable {f : Fields} {top : Path} {names : List (List Char)} {subsystem : String}

theorem isAbsolute_escaped (habs : top.isAbsolute = true) :
    (Path.mk (escaped top.chars)).isAbsolute = true := by
  obtain ⟨rest, hrest⟩ := exists_chars_eq_cons habs
  rw [hrest, escaped_cons]
  rfl

/-- Nothing is below a root that has been escaped, where it is not. -/
theorem not_isBelow_escaped (habs : top.isAbsolute = true)
    (hescaped : ¬ ∀ c ∈ top.chars, isEscaped c = false) :
    ¬ IsBelow (Path.mk (escaped top.chars)).components
      (top.components ++ names.map .normal) := by
  rintro ⟨below, -, heq⟩
  rw [components_of_isAbsolute habs, components_of_isAbsolute (isAbsolute_escaped habs),
    segments_escaped, List.cons_append, List.cons_append] at heq
  -- the spelling has as many segments, so that they would have to be the same
  have hsegs := (List.append_inj (List.cons.inj heq).2 (by rw [List.length_map])).1
  exact hescaped (not_isEscaped_of_segments ((segments_escaped _).trans hsegs.symm))

/-- The table of a line with an escaped root has the spelling of it for all that the line offers. -/
theorem Fields.Shows.destination?_iff {root : Path} (h : f.Shows top)
    (hoffers : f.info.Offers subsystem) :
    (Table.ofInfos [f.info]).destination? subsystem = some root ↔
      root = ⟨escaped top.chars⟩ := by
  have hroot : f.info.root = ⟨escaped top.chars⟩ := by rw [← h.root]; rfl
  have htype : f.info.fsType = Mount.fsType := Fields.fsType_info_iff.2 h.type
  rw [Table.destination?_ofInfos_singleton, hroot]
  exact ⟨fun hinfo => hinfo.2.2.symm, fun heq => ⟨htype, hoffers, heq.symm⟩⟩

/-- If the first word of the spelling has the segments of the path, there was nothing to escape. -/
theorem isPlain_of_segments {w : List Char} {ws : List (List Char)} (hne : top.chars ≠ [])
    (hwords : Text.words (escaped top.chars) = w :: ws) (hw : Text.IsWord w)
    (hsegs : segments w = segments top.chars) : IsPlain top.chars := by
  have hblank : ∀ c ∈ top.chars, Text.isBlank c = false := by
    intro c hc
    -- a blank is in a name, and the word has the same names
    by_contra hblank
    have hslash : c ≠ '/' := fun heq => hblank (heq ▸ by decide)
    have hdot : c ≠ '.' := fun heq => hblank (heq ▸ by decide)
    exact hblank (hw.2 c (mem_of_segments_eq hsegs.symm hslash hdot hc))
  have hwhole : Text.IsWord (escaped top.chars) :=
    isWord_escaped hne fun c hc hc' => absurd hc' (by simp [hblank c hc])
  rw [Text.words_of_isWord hwhole] at hwords
  obtain ⟨rfl, -⟩ := List.cons.inj hwords
  exact fun c hc => ⟨hblank c hc, not_isEscaped_of_segments hsegs c hc⟩

/-- A path without names has nothing to escape. -/
theorem isPlain_of_segments_eq_nil (h : segments top.chars = []) : IsPlain top.chars := by
  intro c hc
  by_cases hslash : c = '/'
  · subst hslash
    decide
  · by_cases hdot : c = '.'
    · subst hdot
      decide
    · obtain ⟨name, hname, -⟩ := (mem_iff_of_segments hslash hdot).1 hc
      rw [h] at hname
      cases hname

end MountInfo

/-! ## Paths below it -/

namespace Record

open MountInfo

section

variable {f : Fields} {top path : Path} {rel : List (List Char)} {r : Record} {subsystem : String}
  (hshows : f.Shows top) (habs : top.isAbsolute = true) (hne : rel ≠ [])
  (hpath : r.get? subsystem = some path)
  (hcs : path.components = top.components ++ rel.map .normal)

include habs hne hcs in
theorem not_equiv_root_of_below : ¬ path ≈ Path.root := by
  intro heq
  rw [equiv_iff, hcs, components_of_isAbsolute habs] at heq
  have hnil := (List.append_eq_nil_iff.1 (List.cons.inj heq).2).2
  exact hne (List.map_eq_nil_iff.1 hnil)

include hshows habs hne hpath hcs

/-- Where the whole spelling of the root is read, a path below `top` resolves to what is shown of it
below that spelling. -/
theorem resolve_below_eq_ok_iff (hoffers : f.info.Offers subsystem) {p : Path} :
    r.resolve none (.ofInfos [f.info]) subsystem = .ok p ↔
      (¬ ∃ name, r.StrandedAt (.ofInfos [f.info]) name) ∧
        p = ofNames (settle (shownComponents (Path.mk (escaped top.chars)).components
          path.components)) := by
  rw [resolve_eq_ok_iff_of_get? hpath (not_equiv_root_of_below habs hne hcs)]
  simp only [hshows.destination?_iff hoffers, exists_eq_left, not_exists]

/-- It does not resolve to the names below `top` if there was something to escape. -/
theorem isPlain_of_resolve_below (hrel : ∀ name ∈ rel, IsName name) (hup : .up ∉ top.components)
    {infos : List MountInfo} (hread : MountInfo.read (Text.encode f.text) = .ok infos)
    (hp : r.resolve none (.ofInfos infos) subsystem = .ok (ofNames rel)) : IsPlain top.chars := by
  have hroot := not_equiv_root_of_below habs hne hcs
  obtain ⟨info, w, ws, rfl, hinfo, hwords, hw⟩ := hshows.exists_of_read habs hread
  obtain ⟨-, root, hdest, heq⟩ := (resolve_eq_ok_iff_of_get? hpath hroot).1 hp
  obtain ⟨-, -, rfl⟩ := Table.destination?_ofInfos_singleton.1 hdest
  rw [hinfo] at heq
  have hsettle : settle (shownComponents (Path.mk w).components path.components) = rel := by
    calc settle (shownComponents (Path.mk w).components path.components)
        = settle (ofNames (settle (shownComponents (Path.mk w).components
            path.components))).components :=
          (settle_components_ofNames fun _ => isName_of_mem_shown).symm
      _ = settle (ofNames rel).components := by rw [heq]
      _ = rel := settle_components_ofNames hrel
  have hup' : .up ∉ segments top.chars := fun hmem =>
    hup (components_of_isAbsolute habs ▸ List.mem_cons_of_mem _ hmem)
  obtain ⟨names, hnames⟩ := exists_segments_eq_map_normal hup'
  by_cases hnil : names = []
  · exact isPlain_of_segments_eq_nil (by rw [hnames, hnil, List.map_nil])
  · -- the word that was read for the root can only be a spelling of it
    rw [hcs, components_of_isAbsolute habs, hnames, List.cons_append, ← List.map_append] at hsettle
    have hshown := eq_of_settle_shownComponents hnil hsettle
    have hwabs : (Path.mk w).isAbsolute = true := isAbsolute_iff.2 (by simp [hshown])
    rw [components_of_isAbsolute hwabs] at hshown
    have hsegs := (List.cons.inj hshown).2.trans hnames.symm
    exact isPlain_of_segments (chars_ne_nil_of_isAbsolute habs) hwords hw hsegs

end

end Record

namespace Strategy

open MountInfo

/-- How a cgroup resolves that is recorded below the root of its mount, where the record has its
path as it is and the line of the mount has the root with escapes. If there is nothing to escape in
the root and no blank in it, the line is read and the cgroup is found below the root. If something
is escaped and no blank is left, the line is read as well, but the path is not recognised and kept
as a whole. For a root without `..` the cgroup is found below it in no other case than the first. -/
theorem resolveIn_below_iff_isPlain {h : Host} {f : Fields} {top : Path} {rel : List (List Char)}
    {r : Record} {subsystem : String} (hshows : f.Shows top) (habs : top.isAbsolute = true)
    (hne : rel ≠ []) (hrel : ∀ name ∈ rel, IsName name) (hoffers : f.info.Offers subsystem)
    (hpath : r.get? subsystem = some ⟨top.chars ++ '/' :: ['/'].intercalate rel⟩) :
    let bytes := Text.encode f.text
    let path := Path.mk (top.chars ++ '/' :: ['/'].intercalate rel)
    let answer (infos : List MountInfo) :=
      (existing r none).resolveIn h (.ofInfos infos) subsystem
    let stranded := ∃ name, r.StrandedAt (.ofInfos [f.info]) name
    (IsPlain top.chars → MountInfo.read bytes = .ok [f.info] ∧
      (answer [f.info] = .ok (ofNames rel) ↔ ¬ stranded)) ∧
    ((∀ c ∈ top.chars, Text.isBlank c = true → isEscaped c = true) →
      (∃ c ∈ top.chars, isEscaped c = true) → MountInfo.read bytes = .ok [f.info] ∧
        (answer [f.info] = .ok path.clean ↔ ¬ stranded)) ∧
    (.up ∉ top.components →
      ((∃ infos, MountInfo.read bytes = .ok infos ∧ answer infos = .ok (ofNames rel)) ↔
        IsPlain top.chars ∧ ¬ stranded)) := by
  intro bytes path answer stranded
  have hcs : path.components = top.components ++ rel.map .normal :=
    components_append_names (chars_ne_nil_of_isAbsolute habs) hrel
  have hanswer : ∀ {p}, answer [f.info] = .ok p ↔ ¬ stranded ∧
      p = ofNames (settle (shownComponents (Path.mk (escaped top.chars)).components
        path.components)) :=
    Record.resolve_below_eq_ok_iff hshows habs hne hpath hcs hoffers
  have hplain : IsPlain top.chars → MountInfo.read bytes = .ok [f.info] ∧
      (answer [f.info] = .ok (ofNames rel) ↔ ¬ stranded) := by
    intro hisPlain
    have hself : escaped top.chars = top.chars :=
      escaped_eq_self_iff.2 fun c hc => (hisPlain c hc).2
    refine ⟨hshows.read_text habs fun c hc hc' => absurd hc' (by simp [(hisPlain c hc).1]), ?_⟩
    rw [hanswer, hself, hcs, settle_shownComponents_below (.inl hne)]
    exact and_iff_left rfl
  refine ⟨hplain, fun hblank hescaped => ⟨hshows.read_text habs hblank, ?_⟩, fun hup => ?_⟩
  · have hnot : ¬ ∀ c ∈ top.chars, isEscaped c = false := by simpa using hescaped
    rw [hanswer, hcs, shownComponents_of_not_isBelow (not_isBelow_escaped habs hnot), ← hcs,
      clean_eq_ofNames]
    exact and_iff_left rfl
  · constructor
    · rintro ⟨infos, hread, hp⟩
      have hisPlain :=
        Record.isPlain_of_resolve_below hshows habs hne hpath hcs hrel hup hread hp
      obtain ⟨hread', hiff⟩ := hplain hisPlain
      obtain rfl := Except.ok.inj (hread'.symm.trans hread)
      exact ⟨hisPlain, hiff.1 hp⟩
    · rintro ⟨hisPlain, hstranded⟩
      obtain ⟨hread, hiff⟩ := hplain hisPlain
      exact ⟨[f.info], hread, hiff.2 hstranded⟩

/-- The unit of a device file, with a backslash in its name. -/
theorem resolveIn_below_iff_isPlain_device :
    let f : Fields :=
      ⟨"30".toList, "25".toList, "0:26".toList, "/dev\\134x2ddisk".toList,
        "/sys/fs/cgroup/memory".toList, "rw".toList, [], "cgroup".toList, "cgroup".toList,
        "rw,memory".toList, []⟩
    let top := Path.ofString "/dev\\x2ddisk"
    let path := Path.ofString "/dev\\x2ddisk/app"
    let r : Record := .ofList [("memory", path)]
    f.Shows top ∧ top.isAbsolute = true ∧ IsName "app".toList ∧ f.info.Offers "memory" ∧
      r.get? "memory" = some path ∧
      MountInfo.read (Text.encode f.text) = .ok [f.info] ∧
      ((existing r none).resolveIn .bare (.ofInfos [f.info]) "memory" = .ok path.clean ↔
        ¬ ∃ name, r.StrandedAt (.ofInfos [f.info]) name) := by
  intro f top path r
  have hshows : f.Shows top :=
    ⟨⟨by decide, by decide, by simp [f]⟩, by decide, by decide, by decide⟩
  have hoffers : f.info.Offers "memory" := .inl ⟨by decide +kernel, by decide⟩
  have hpath : r.get? "memory" = some path := by decide +kernel
  have hword : Text.IsWord top.chars := by decide
  have habs : top.isAbsolute = true := by decide
  have happ : IsName "app".toList := by simp [IsName]
  have hlaw := resolveIn_below_iff_isPlain (h := .bare) hshows habs (List.cons_ne_nil _ [])
    (List.forall_mem_singleton.2 happ) hoffers hpath
  have hblank : ∀ c ∈ top.chars, Text.isBlank c = true → isEscaped c = true := fun c hc hc' =>
    absurd hc' (by simp [hword.2 c hc])
  exact ⟨hshows, habs, happ, hoffers, hpath, hlaw.2.1 hblank ⟨'\\', by decide, rfl⟩⟩

/-- The cgroup of a mount unit keeps its whole path, as if it were outside the mount, because the
backslash in the name of the unit is an octal number in one of the two texts. -/
theorem resolveIn_keeps_escaped_unit :
    let path := Path.ofString "/dev\\x2ddisk/app"
    ∃ infos r, MountInfo.read (Text.encode
        "30 25 0:26 /dev\\134x2ddisk /memory rw - cgroup cgroup rw,memory".toList) = .ok infos ∧
      Record.ofText "4:memory:/dev\\x2ddisk/app" = .ok r ∧
      (existing r none).resolveIn .bare (.ofInfos infos) "memory" = .ok path ∧
      path ≠ .ofString "/app" := by
  intro path
  let f : Fields :=
    ⟨"30".toList, "25".toList, "0:26".toList, "/dev\\134x2ddisk".toList, "/memory".toList,
      "rw".toList, [], "cgroup".toList, "cgroup".toList, "rw,memory".toList, []⟩
  have htext : "30 25 0:26 /dev\\134x2ddisk /memory rw - cgroup cgroup rw,memory".toList =
      f.text := by decide
  have hread : MountInfo.read (Text.encode f.text) = .ok [f.info] :=
    f.read_text ⟨by decide, by decide, by simp [f]⟩ (by decide)
  have hentries : Record.entries .empty (Text.encode "4:memory:/dev\\x2ddisk/app".toList) =
      .ok [.hierarchy 4 ["memory"] path] := by decide +kernel
  let r : Record := .ofEntries [.hierarchy 4 ["memory"] path]
  have hget : r.get? "memory" = some path := by decide +kernel
  have hdest : (Table.ofInfos [f.info]).destination? "memory" = some f.info.root := by decide +kernel
  have hnone : ∀ name, ¬ r.StrandedAt (.ofInfos [f.info]) name := by
    have hentry : r.toList = [("memory", path)] := by decide +kernel
    rw [Record.stranded_nowhere_iff, hentry, List.forall_mem_singleton]
    rintro ⟨hnone, -⟩
    simp [hdest] at hnone
  -- the path does not begin with the root as it was read, so that all of it is shown
  have hshown : path =
      ofNames (settle (shownComponents f.info.root.components path.components)) := by decide
  refine ⟨[f.info], r, by rw [htext, hread], ?_, ?_, by decide⟩
  · rw [Record.ofText, Record.ofBytes, Record.read, hentries]
    rfl
  · exact (Record.resolve_eq_ok_iff_of_get? hget (by decide)).2 ⟨hnone, f.info.root, hdest, hshown⟩

end Strategy
end Cgroup
