import Mathlib.Data.List.Infix
import Cgroup.Proofs.Path.Pieces

/-!
# Paths below a base

What taking a path apart and joining it again means for components. `dropPrefix?` undoes a common
beginning of components however it is spelled (`exists_dropPrefix?`, `dropPrefix?_eq_none`), and
`joinBelow` always succeeds: a base that is not empty gains exactly the segments of the other path
(`exists_joinBelow`), and so does any base if the other path is absolute
(`exists_joinBelow_of_isAbsolute`). `parent?` takes the last component off, which fails for the root
and the empty path alone (`exists_parent?_of_not_equiv_root`).
-/

namespace Cgroup.Path

/-! ## Beginnings and ends by their components -/

theorem components_of_beginning? {p q : Path} {cs : List Component}
    (h : p.beginning? cs = some q) : q.components = cs := by
  simpa using List.find?_some h

theorem isPrefix_of_beginning? {p q : Path} {cs : List Component}
    (h : p.beginning? cs = some q) : q.chars <+: p.chars := by
  obtain ⟨n, -, rfl⟩ := List.mem_map.1 (List.mem_of_find?_eq_some h)
  exact List.take_prefix n p.chars

/-- A path has a beginning with the components that a beginning of its text spells. -/
theorem exists_beginning? {p : Path} {s : List Char} (h : s <+: p.chars) :
    ∃ q, p.beginning? (Path.mk s).components = some q ∧
      q.components = (Path.mk s).components := by
  have hsome : (p.beginning? (Path.mk s).components).isSome := by
    unfold beginning?
    rw [List.find?_isSome]
    refine ⟨⟨s⟩, List.mem_map.2 ⟨s.length, ?_, ?_⟩, by simp⟩
    · exact List.mem_range.2 (Nat.lt_succ_of_le h.length_le)
    · rw [← List.prefix_iff_eq_take.1 h]
  obtain ⟨q, hq⟩ := Option.isSome_iff_exists.1 hsome
  exact ⟨q, hq, components_of_beginning? hq⟩

/-- A beginning of a path is the shortest with its components if no shorter text has them. -/
theorem beginning?_eq_some {p q : Path} (hq : q.chars <+: p.chars)
    (hshort : ∀ s, s.length < q.chars.length → (Path.mk s).components ≠ q.components) :
    p.beginning? q.components = some q := by
  have hlen : q.chars.length ≤ p.chars.length := hq.length_le
  have htake : q.chars = p.chars.take q.chars.length := List.prefix_iff_eq_take.1 hq
  unfold beginning?
  rw [List.find?_map, Option.map_eq_some_iff]
  refine ⟨q.chars.length, ?_, by rw [← htake]⟩
  rw [List.find?_range_eq_some]
  refine ⟨?_, List.mem_range.2 (by omega), ?_⟩
  · simp only [Function.comp_apply, ← htake, decide_true]
  · intro n hn
    have := hshort (p.chars.take n) (by rw [List.length_take]; omega)
    simpa using this

/-- A path has an end with the components that an end of its text spells. -/
theorem exists_ending? {p : Path} {s : List Char} (h : s <:+ p.chars) :
    ∃ q, p.ending? (Path.mk s).components = some q ∧
      q.components = (Path.mk s).components := by
  have hsome : (p.ending? (Path.mk s).components).isSome := by
    unfold ending?
    rw [List.find?_isSome]
    refine ⟨⟨s⟩, List.mem_map.2 ⟨p.chars.length - s.length, ?_, ?_⟩, by simp⟩
    · exact List.mem_range.2 (by omega)
    · rw [← List.suffix_iff_eq_drop.1 h]
  obtain ⟨q, hq⟩ := Option.isSome_iff_exists.1 hsome
  exact ⟨q, hq, by simpa using List.find?_some hq⟩

/-! ## Taking components off the front -/

/-- Taking the components of `base` off a path that begins with them leaves the others. -/
theorem exists_dropPrefix? {p base : Path} {below : List Component}
    (h : p.components = base.components ++ below) :
    ∃ rest, p.dropPrefix? base = some rest ∧ rest.components = below := by
  have hbelow : base.components.isPrefixOf? p.components = some below :=
    List.isPrefixOf?_eq_some_iff_append_eq.2 h.symm
  have hend : ∃ rest, p.ending? below = some rest ∧ rest.components = below := by
    -- a base without components leaves the whole path, and only there does its beginning count
    cases hbase : base.components with
    | nil =>
      rw [hbase, List.nil_append] at h
      subst h
      exact exists_ending? List.suffix_rfl
    | cons c cs =>
      obtain ⟨s, hs, hlead, hsegs⟩ := exists_isSuffix_of_components (by simp) (hbase ▸ h)
      have hcs : (Path.mk s).components = below := by rw [components, hlead, hsegs, List.nil_append]
      exact hcs ▸ exists_ending? hs
  obtain ⟨rest, hrest, rfl⟩ := hend
  obtain ⟨q, hq, hcs⟩ := exists_beginning? (p := rest) List.prefix_rfl
  refine ⟨q, ?_, hcs⟩
  rw [dropPrefix?, hbelow]
  show (p.ending? rest.components).bind (·.beginning? rest.components) = some q
  rw [hrest, Option.bind_some, hq]

/-- Nothing is taken off a path that begins with other components. -/
theorem dropPrefix?_eq_none {p base : Path}
    (h : base.components.isPrefixOf? p.components = none) : p.dropPrefix? base = none := by
  rw [dropPrefix?, h]
  rfl

/-! ## Joining below -/

/-- A path whose components are neither the root nor a leading `.` spells segments only. -/
theorem segments_of_components {p : Path} (hroot : .root ∉ p.components)
    (hhere : .here ∉ p.components) : segments p.chars = p.components := by
  rw [components, lead_of_components rfl hroot hhere, List.nil_append]

theorem not_root_mem_segments (s : List Char) : .root ∉ segments s := by
  intro h
  rcases eq_up_or_isName_of_mem_segments h with h | ⟨name, -, h⟩ <;> simp at h

theorem not_here_mem_segments (s : List Char) : .here ∉ segments s := by
  intro h
  rcases eq_up_or_isName_of_mem_segments h with h | ⟨name, -, h⟩ <;> simp at h

theorem exists_chars_eq_cons {p : Path} (h : p.isAbsolute = true) :
    ∃ rest, p.chars = '/' :: rest := by
  simpa [isAbsolute, List.head?_eq_some_iff] using h

theorem chars_ne_nil_of_isAbsolute {p : Path} (h : p.isAbsolute = true) : p.chars ≠ [] := by
  obtain ⟨rest, hrest⟩ := exists_chars_eq_cons h
  rw [hrest]
  exact List.cons_ne_nil '/' rest

theorem components_of_isAbsolute {p : Path} (h : p.isAbsolute = true) :
    p.components = .root :: segments p.chars := by
  obtain ⟨rest, hrest⟩ := exists_chars_eq_cons h
  rw [components, hrest]
  rfl

/-- A path is absolute exactly when the root is one of its components. -/
theorem isAbsolute_iff {p : Path} : p.isAbsolute = true ↔ .root ∈ p.components := by
  constructor
  · intro h
    rw [components_of_isAbsolute h]
    exact List.mem_cons_self
  · intro h
    rcases List.mem_append.1 h with h | h
    · unfold lead at h
      split at h
      · rename_i hp
        simp [isAbsolute, hp]
      all_goals simp at h
    · exact absurd h (not_root_mem_segments _)

/-- What is left of an absolute path behind the root are its segments, as a relative path. -/
theorem exists_dropPrefix?_root {p : Path} (h : p.isAbsolute = true) :
    ∃ rest, p.dropPrefix? root = some rest ∧ rest.isAbsolute = false ∧
      rest.components = segments p.chars ∧ segments rest.chars = segments p.chars := by
  have hp : p.components = root.components ++ segments p.chars := components_of_isAbsolute h
  obtain ⟨rest, hrest, hcs⟩ := exists_dropPrefix? hp
  have hroot : .root ∉ rest.components := hcs ▸ not_root_mem_segments _
  have hhere : .here ∉ rest.components := hcs ▸ not_here_mem_segments _
  refine ⟨rest, hrest, ?_, hcs, ?_⟩
  · rw [← Bool.not_eq_true, isAbsolute_iff]
    exact hroot
  · rw [segments_of_components hroot hhere, hcs]

/-- Joining a path below a base that is not empty adds the segments of the path. -/
theorem exists_joinBelow {base : Path} (hbase : base.chars ≠ []) (p : Path) :
    ∃ q, base.joinBelow p = .ok q ∧ q.components = base.components ++ segments p.chars := by
  unfold joinBelow
  cases hp : p.isAbsolute with
  | false => exact ⟨_, rfl, components_join hbase hp⟩
  | true =>
    obtain ⟨rest, hrest, hrel, -, hsegs⟩ := exists_dropPrefix?_root hp
    simp only [hrest, if_true]
    exact ⟨_, rfl, hsegs ▸ components_join hbase hrel⟩

/-- Joining an absolute path below any base adds the segments of the path. An empty base is not
left out, because what is joined begins with no slash and with no `.` that would count. -/
theorem exists_joinBelow_of_isAbsolute (base : Path) {p : Path} (hp : p.isAbsolute = true) :
    ∃ q, base.joinBelow p = .ok q ∧ q.components = base.components ++ segments p.chars := by
  by_cases hbase : base.chars = []
  · obtain ⟨rest, hrest, hrel, hcs, -⟩ := exists_dropPrefix?_root hp
    refine ⟨rest, ?_, ?_⟩
    · unfold joinBelow join
      simp [hp, hrest, hrel, hbase]
    · have hnil : base.components = [] := by
        rw [components, hbase]
        rfl
      rw [hnil, List.nil_append, hcs]
  · exact exists_joinBelow hbase p

/-! ## Parents -/

/-- A path has a parent if its last component is not the root: a beginning of the text that spells
the components in front of the last one. -/
theorem exists_parent? {p : Path} {cs : List Component} {c : Component}
    (h : p.components = cs ++ [c]) (hc : c ≠ .root) :
    ∃ q, p.parent? = some q ∧ q.components = cs ∧ q.chars <+: p.chars := by
  obtain ⟨front, hfront, hcs⟩ := exists_isPrefix_of_components h
  obtain ⟨q, hq, hqcs⟩ := exists_beginning? hfront
  rw [hcs] at hq hqcs
  refine ⟨q, ?_, hqcs, isPrefix_of_beginning? hq⟩
  rw [parent?, h, List.getLast?_concat, List.dropLast_concat]
  cases c with
  | root => exact absurd rfl hc
  | here | up | normal name => exact hq

/-- The root has no parent, however it is spelled. -/
theorem parent?_of_equiv_root {p : Path} (h : p ≈ root) : p.parent? = none := by
  rw [parent?, equiv_iff.1 h]
  rfl

/-- Every path that is not empty has a parent, unless it is the root. -/
theorem exists_parent?_of_not_equiv_root {p : Path} (hne : p.chars ≠ []) (hroot : ¬ p ≈ root) :
    ∃ q c, p.parent? = some q ∧ p.components = q.components ++ [c] ∧ q.chars <+: p.chars := by
  obtain ⟨cs, c, hcs⟩ : ∃ cs c, p.components = cs ++ [c] := by
    obtain hnil | ⟨cs, c, hcs⟩ := List.eq_nil_or_concat p.components
    · exact absurd hnil (components_ne_nil hne)
    · exact ⟨cs, c, by rw [hcs, List.concat_eq_append]⟩
  have hc : c ≠ .root := by
    -- the root is a first component, so that it is the only one if it is the last
    rintro rfl
    have habs : p.isAbsolute = true := isAbsolute_iff.2 (by simp [hcs])
    have hsegs := hcs.symm.trans (components_of_isAbsolute habs)
    cases cs with
    | nil => exact hroot hcs
    | cons c' cs =>
      have hmem : .root ∈ segments p.chars := by
        rw [← (List.cons.inj hsegs).2]
        exact List.mem_append_right cs List.mem_cons_self
      exact not_root_mem_segments p.chars hmem
  obtain ⟨q, hq, rfl, hprefix⟩ := exists_parent? hcs hc
  exact ⟨q, c, hq, hcs, hprefix⟩

end Cgroup.Path
