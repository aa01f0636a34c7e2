import Cgroup.Path.Basic
import Cgroup.Text.Cut

/-!
# Components of a path

`segments_append` is the law that the rest of the library stands on: the segments of two texts
with a slash between them are those of the first followed by those of the second. With
`segments_intercalate` it says what a path means that is put together from names, and
`isName_of_normal_mem_components` says that every path is made of such names.
-/

namespace Cgroup.Path

/-! ## Segments -/

@[simp] theorem segments_nil : segments [] = [] := rfl

/-- The segments of two texts with a slash between them are those of both. -/
theorem segments_append (s t : List Char) :
    segments (s ++ '/' :: t) = segments s ++ segments t := by
  rw [segments, List.splitOn_append_cons_self, List.filterMap_append, segments, segments]

/-- A slash in front of a text adds no segment. -/
@[simp] theorem segments_cons_slash (s : List Char) : segments ('/' :: s) = segments s := by
  simpa using segments_append [] s

/-- The segment that a name stands for. -/
theorem ofSegment?_of_isName {name : List Char} (h : IsName name) :
    ofSegment? name = some (.normal name) := by
  simp [ofSegment?, h.1, h.2.2.1, h.2.2.2]

/-- A name is a text of one segment. -/
theorem segments_of_isName {name : List Char} (h : IsName name) :
    segments name = [.normal name] := by
  rw [segments, List.splitOn_eq_singleton h.2.1]
  simp [ofSegment?_of_isName h]

/-- The segments of names with slashes between them are those names. -/
theorem segments_intercalate {names : List (List Char)} (h : ∀ name ∈ names, IsName name) :
    segments (['/'].intercalate names) = names.map .normal := by
  induction names with
  | nil => rfl
  | cons name names ih =>
    have hname := segments_of_isName (h name List.mem_cons_self)
    have hnames := ih fun n hn => h n (List.mem_cons_of_mem _ hn)
    cases names with
    | nil => simpa using hname
    | cons next names =>
      rw [List.intercalate_cons_cons, List.append_assoc, List.singleton_append, segments_append,
        hname, hnames]
      rfl

/-- A segment is `..` or a name. -/
theorem eq_up_or_isName_of_mem_segments {c : Component} {s : List Char} (h : c ∈ segments s) :
    c = .up ∨ ∃ name, IsName name ∧ c = .normal name := by
  obtain ⟨segment, hmem, hc⟩ := List.mem_filterMap.1 h
  have hslash : '/' ∉ segment := Text.not_mem_of_mem_splitOn hmem
  simp only [ofSegment?] at hc
  split at hc
  · simp at hc
  · split at hc
    · exact .inl (by simpa using hc.symm)
    · refine .inr ⟨segment, ?_, by simpa using hc.symm⟩
      simp_all [IsName]

/-- What a text means at its beginning does not change behind a slash. -/
theorem lead_append_slash {s : List Char} (h : s ≠ []) (t : List Char) :
    lead (s ++ '/' :: t) = lead s := by
  match s, h with
  | ['/'], _ | '/' :: _ :: _, _ | ['.'], _ | '.' :: '/' :: _, _ => rfl
  | [c], _ => by_cases hc : c = '/' <;> by_cases hd : c = '.' <;> simp [lead, hc, hd]
  | c :: d :: s, _ =>
    by_cases hc : c = '/' <;> by_cases hd : c = '.' <;> by_cases he : d = '/' <;>
      simp [lead, hc, hd, he]

/-- The names among the components of a path are proper names. -/
theorem isName_of_normal_mem_components {name : List Char} {p : Path}
    (h : .normal name ∈ p.components) : IsName name := by
  rcases List.mem_append.1 h with h | h
  · unfold lead at h
    split at h <;> simp at h
  · rcases eq_up_or_isName_of_mem_segments h with h | ⟨name', hname, h⟩
    · simp at h
    · exact Component.normal.inj h ▸ hname

end Cgroup.Path
