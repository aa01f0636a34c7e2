import Cgroup.Path.Join

/-!
# Pieces of a path

A text is a piece without a slash, or such a piece, a slash and another text: `slash_induction`
lets a proof follow it in this way. Two facts about components come from it that `parent?` and
`dropPrefix?` stand on, because both look for a piece of a text by the components that it has:

* `exists_isSuffix_of_segments`: if the segments of a text are two lists, one end of the text
  spells the second list and nothing else, and by `exists_isPrefix_of_segments` a beginning of it
  spells the first one;
* `length_intercalate_le`: no text with given names as its segments is shorter than the names with
  single slashes between them.

By `mem_iff_of_segments` the characters of a text are those of its names, slashes and dots apart.
-/

namespace Cgroup.Path

/-! ## Texts as pieces between slashes -/

/-- What holds of all texts without a slash, and of a text with one more piece in front if it
holds of the text, holds of all texts. -/
@[elab_as_elim]
theorem slash_induction {motive : List Char → Prop}
    (piece : ∀ s, '/' ∉ s → motive s)
    (slash : ∀ s t, '/' ∉ s → motive t → motive (s ++ '/' :: t))
    (s : List Char) : motive s :=
  Text.cut_induction '/' piece slash s

/-- A text without a slash has at most one segment. -/
theorem segments_of_not_mem {s : List Char} (h : '/' ∉ s) :
    segments s = (ofSegment? s).toList := by
  rw [segments, List.splitOn_eq_singleton h]
  cases hc : ofSegment? s <;> simp [hc]

/-- The piece in front of a slash adds the segment that it stands for, if it does. -/
theorem segments_piece_append {s : List Char} (h : '/' ∉ s) (t : List Char) :
    segments (s ++ '/' :: t) = (ofSegment? s).toList ++ segments t := by
  rw [segments_append, segments_of_not_mem h]

/-- A piece that stands for a name is that name. -/
theorem eq_of_ofSegment?_eq_normal {s name : List Char}
    (h : ofSegment? s = some (.normal name)) : s = name := by
  unfold ofSegment? at h
  split at h
  · simp at h
  · split at h
    · simp at h
    · simpa using h

/-- The beginning of a piece that stands for a segment means nothing of its own. -/
theorem lead_of_ofSegment?_eq_some {s : List Char} {c : Component} (hslash : '/' ∉ s)
    (h : ofSegment? s = some c) : lead s = [] := by
  have hne : s ≠ [] ∧ s ≠ ['.'] := by
    refine ⟨?_, ?_⟩ <;> rintro rfl <;> simp [ofSegment?] at h
  unfold lead
  split
  · simp at hslash
  · exact absurd rfl hne.2
  · simp at hslash
  · rfl

/-- No text spells the root or a leading `.` as a segment. -/
theorem lead_of_components {s : List Char} {cs : List Component}
    (h : (Path.mk s).components = cs) (hroot : .root ∉ cs) (hhere : .here ∉ cs) :
    lead s = [] := by
  subst h
  unfold components lead at *
  split at hroot <;> simp_all

/-- The characters of a piece are those of the name that it stands for, dots apart. -/
theorem mem_piece_iff {s : List Char} {c : Char} (hdot : c ≠ '.') :
    c ∈ s ↔ ∃ name, ofSegment? s = some (.normal name) ∧ c ∈ name := by
  constructor
  · intro hc
    have hne : ∀ dots : List Char, c ∉ dots → s ≠ dots := fun dots hdots heq => hdots (heq ▸ hc)
    refine ⟨s, ?_, hc⟩
    simp [ofSegment?, hne [] (by simp), hne ['.'] (by simp [hdot]), hne ['.', '.'] (by simp [hdot])]
  · rintro ⟨name, hname, hc⟩
    rwa [eq_of_ofSegment?_eq_normal hname]

/-- The characters of a text are those of its names, slashes and dots apart. -/
theorem mem_iff_of_segments {s : List Char} {c : Char} (hslash : c ≠ '/') (hdot : c ≠ '.') :
    c ∈ s ↔ ∃ name, .normal name ∈ segments s ∧ c ∈ name := by
  induction s using slash_induction with
  | piece s hs =>
    rw [mem_piece_iff hdot, segments_of_not_mem hs]
    simp only [Option.mem_toList]
  | slash s t hs ih =>
    rw [segments_piece_append hs, List.mem_append, List.mem_cons, mem_piece_iff hdot, ih]
    simp only [hslash, false_or, List.mem_append, Option.mem_toList, or_and_right,
      exists_or]

/-- So two texts with the same segments have the same characters, slashes and dots apart. -/
theorem mem_of_segments_eq {s t : List Char} (h : segments s = segments t) {c : Char}
    (hslash : c ≠ '/') (hdot : c ≠ '.') (hc : c ∈ s) : c ∈ t := by
  rw [mem_iff_of_segments hslash hdot, h] at hc
  exact (mem_iff_of_segments hslash hdot).2 hc

/-! ## Ends of a text -/

/-- If the segments of a text are two lists, an end of the text spells the second one. -/
theorem exists_isSuffix_of_segments {s : List Char} {cs ds : List Component}
    (h : segments s = cs ++ ds) :
    ∃ rest, rest <:+ s ∧ lead rest = [] ∧ segments rest = ds := by
  -- `cs` is general, because a piece that counts takes its first component
  induction s using slash_induction generalizing cs with
  | piece s hs =>
    rw [segments_of_not_mem hs] at h
    cases hc : ofSegment? s with
    | none =>
      rw [hc, Option.toList_none, List.nil_eq_append_iff] at h
      exact ⟨[], List.nil_suffix, rfl, by rw [h.2]; rfl⟩
    | some c =>
      rw [hc, Option.toList_some] at h
      cases cs with
      | nil =>
        refine ⟨s, List.suffix_rfl, lead_of_ofSegment?_eq_some hs hc, ?_⟩
        rw [segments_of_not_mem hs, hc, Option.toList_some, h, List.nil_append]
      | cons c' cs =>
        have hds : ds = [] := by
          have := congrArg List.length h
          simp only [List.length_cons, List.length_nil, List.length_append] at this
          exact List.eq_nil_of_length_eq_zero (by omega)
        exact ⟨[], List.nil_suffix, rfl, hds.symm⟩
  | slash s t hs ih =>
    rw [segments_piece_append hs] at h
    have hend : t <:+ s ++ '/' :: t := ⟨s ++ ['/'], by simp⟩
    cases hc : ofSegment? s with
    | none =>
      rw [hc, Option.toList_none, List.nil_append] at h
      obtain ⟨rest, hrest, hlead, hsegs⟩ := ih h
      exact ⟨rest, hrest.trans hend, hlead, hsegs⟩
    | some c =>
      rw [hc, Option.toList_some] at h
      cases cs with
      | nil =>
        -- nothing is taken any more, so that the end begins with this piece
        refine ⟨s ++ '/' :: t, List.suffix_rfl, ?_, ?_⟩
        · have hne : s ≠ [] := by
            rintro rfl
            simp [ofSegment?] at hc
          rw [lead_append_slash hne, lead_of_ofSegment?_eq_some hs hc]
        · rw [segments_piece_append hs, hc, Option.toList_some, h, List.nil_append]
      | cons c' cs =>
        rw [List.singleton_append, List.cons_append] at h
        obtain ⟨rest, hrest, hlead, hsegs⟩ := ih (List.cons.inj h).2
        exact ⟨rest, hrest.trans hend, hlead, hsegs⟩

/-- If the components of a path are two lists and the first is not empty, an end of the path
spells the second one. -/
theorem exists_isSuffix_of_components {p : Path} {cs ds : List Component} (hcs : cs ≠ [])
    (h : p.components = cs ++ ds) :
    ∃ rest, rest <:+ p.chars ∧ lead rest = [] ∧ segments rest = ds := by
  unfold components at h
  obtain ⟨c, cs, rfl⟩ := List.exists_cons_of_ne_nil hcs
  -- the beginning of a text means at most one component, and that one is in the first list
  have hlead : lead p.chars = [] ∨ ∃ l, lead p.chars = [l] := by
    unfold lead
    split <;> simp
  rcases hlead with hnil | ⟨l, hl⟩
  · rw [hnil, List.nil_append] at h
    exact exists_isSuffix_of_segments h
  · rw [hl, List.singleton_append, List.cons_append] at h
    exact exists_isSuffix_of_segments (List.cons.inj h).2

/-! ## Beginnings of a text -/

/-- What a text means at its beginning is decided in front of the first slash, if there is one. -/
theorem lead_piece_append (s t t' : List Char) : lead (s ++ '/' :: t) = lead (s ++ '/' :: t') := by
  cases s with
  | nil => rfl
  | cons c s =>
    have hne := List.cons_ne_nil c s
    rw [lead_append_slash hne, lead_append_slash hne]

/-- If the segments of a text are two lists, a beginning of the text spells the first one. Unless it
is empty, it means at its own beginning what the text does. -/
theorem exists_isPrefix_of_segments {s : List Char} {cs ds : List Component}
    (h : segments s = cs ++ ds) :
    ∃ front, front <+: s ∧ segments front = cs ∧ (front ≠ [] → lead front = lead s) := by
  -- `cs` is general, because a piece that counts takes its first component
  induction s using slash_induction generalizing cs with
  | piece s hs =>
    cases cs with
    | nil => exact ⟨[], List.nil_prefix, rfl, fun hne => absurd rfl hne⟩
    | cons c cs =>
      refine ⟨s, List.prefix_rfl, ?_, fun _ => rfl⟩
      rw [segments_of_not_mem hs] at h ⊢
      cases hc : ofSegment? s with
      | none => simp [hc] at h
      | some c' =>
        -- there is no room for a second segment
        rw [hc, Option.toList_some, List.cons_append] at h
        obtain ⟨rfl, hnil⟩ := List.cons.inj h
        rw [(List.nil_eq_append_iff.1 hnil).1, Option.toList_some]
  | slash s t hs ih =>
    rw [segments_piece_append hs] at h
    have hextend : ∀ {front}, front <+: t → s ++ '/' :: front <+: s ++ '/' :: t :=
      fun hfront => (List.prefix_append_right_inj s).2 (List.cons_prefix_cons.2 ⟨rfl, hfront⟩)
    cases hc : ofSegment? s with
    | none =>
      rw [hc, Option.toList_none, List.nil_append] at h
      obtain ⟨front, hfront, hsegs, -⟩ := ih h
      refine ⟨s ++ '/' :: front, hextend hfront, ?_, fun _ => lead_piece_append s front t⟩
      rw [segments_piece_append hs, hc, Option.toList_none, List.nil_append, hsegs]
    | some c =>
      rw [hc, Option.toList_some] at h
      cases cs with
      | nil => exact ⟨[], List.nil_prefix, rfl, fun hne => absurd rfl hne⟩
      | cons c' cs =>
        rw [List.singleton_append, List.cons_append] at h
        obtain ⟨rfl, hrest⟩ := List.cons.inj h
        obtain ⟨front, hfront, hsegs, -⟩ := ih hrest
        refine ⟨s ++ '/' :: front, hextend hfront, ?_, fun _ => lead_piece_append s front t⟩
        rw [segments_piece_append hs, hc, Option.toList_some, hsegs, List.singleton_append]

/-- What a text means at its beginning is spelled by a beginning of it. -/
theorem exists_isPrefix_of_lead (s : List Char) :
    ∃ front, front <+: s ∧ (Path.mk front).components = lead s := by
  unfold lead
  split
  · exact ⟨['/'], List.cons_prefix_cons.2 ⟨rfl, List.nil_prefix⟩, rfl⟩
  · exact ⟨['.'], List.prefix_rfl, rfl⟩
  · exact ⟨['.'], List.cons_prefix_cons.2 ⟨rfl, List.nil_prefix⟩, rfl⟩
  · exact ⟨[], List.nil_prefix, rfl⟩

/-- If the last component of a path is taken off, a beginning of the path spells the others. -/
theorem exists_isPrefix_of_components {p : Path} {cs : List Component} {c : Component}
    (h : p.components = cs ++ [c]) :
    ∃ front, front <+: p.chars ∧ (Path.mk front).components = cs := by
  unfold components at h
  rcases List.eq_nil_or_concat (segments p.chars) with hsegs | ⟨ds, d, hsegs⟩
  · -- the only component is what the beginning means, so that none is left
    rw [hsegs, List.append_nil] at h
    have hlength : (lead p.chars).length ≤ 1 := by
      unfold lead
      split <;> simp
    rw [h, List.length_append, List.length_singleton] at hlength
    rw [List.eq_nil_of_length_eq_zero (by omega : cs.length = 0)]
    exact ⟨[], List.nil_prefix, rfl⟩
  · rw [List.concat_eq_append] at hsegs
    rw [hsegs, ← List.append_assoc] at h
    obtain ⟨rfl, -⟩ := List.append_inj' h rfl
    obtain ⟨front, hfront, hds, hlead⟩ := exists_isPrefix_of_segments hsegs
    by_cases hne : front = []
    · -- no segment is left, and an empty text would not mean what the beginning does
      rw [hne, segments_nil] at hds
      rw [← hds, List.append_nil]
      exact exists_isPrefix_of_lead p.chars
    · exact ⟨front, hfront, by rw [components, hlead hne, hds]⟩

/-- Every text that is not empty has a component. -/
theorem components_ne_nil {p : Path} (h : p.chars ≠ []) : p.components ≠ [] := by
  obtain ⟨s⟩ := p
  intro hnil
  obtain ⟨hlead, hsegs⟩ := List.append_eq_nil_iff.1 hnil
  -- a piece in front that does not count is empty or a dot, and either means something there
  have hcounts : ∀ {piece}, ofSegment? piece = none → piece = [] ∨ piece = ['.'] := by
    intro piece hpiece
    unfold ofSegment? at hpiece
    grind
  induction s using slash_induction with
  | piece s hs =>
    rw [segments_of_not_mem hs, Option.toList_eq_nil_iff] at hsegs
    rcases hcounts hsegs with rfl | rfl
    · exact h rfl
    · simp [lead] at hlead
  | slash s t hs _ =>
    rw [segments_piece_append hs, List.append_eq_nil_iff, Option.toList_eq_nil_iff] at hsegs
    rcases hcounts hsegs.1 with rfl | rfl <;> simp [lead] at hlead

/-! ## The shortest spelling -/

/-- No text with given names as its segments is shorter than these names with single slashes
between them. -/
theorem length_intercalate_le {s : List Char} {names : List (List Char)}
    (h : segments s = names.map .normal) :
    (['/'].intercalate names).length ≤ s.length := by
  induction s using slash_induction generalizing names with
  | piece s hs =>
    rw [segments_of_not_mem hs] at h
    cases names with
    | nil => simp
    | cons name names =>
      cases hc : ofSegment? s with
      | none => simp [hc] at h
      | some c =>
        rw [hc, Option.toList_some, List.map_cons] at h
        obtain ⟨rfl, hnames⟩ := List.cons.inj h
        rw [eq_of_ofSegment?_eq_normal hc, List.map_eq_nil_iff.1 hnames.symm]
        simp
  | slash s t hs ih =>
    rw [segments_piece_append hs] at h
    rw [List.length_append, List.length_cons]
    cases hc : ofSegment? s with
    | none =>
      -- a piece that does not count only makes the text longer
      rw [hc, Option.toList_none, List.nil_append] at h
      have := ih h
      omega
    | some c =>
      cases names with
      | nil => simp
      | cons name names =>
        rw [hc, Option.toList_some, List.singleton_append, List.map_cons] at h
        obtain ⟨rfl, hnames⟩ := List.cons.inj h
        rw [eq_of_ofSegment?_eq_normal hc]
        have hle := ih hnames
        cases names with
        | nil =>
          rw [List.intercalate_singleton]
          omega
        | cons next names =>
          rw [List.intercalate_cons_cons, List.length_append, List.length_append,
            List.length_singleton]
          omega

end Cgroup.Path
