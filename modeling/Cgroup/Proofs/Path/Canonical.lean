import Mathlib.Data.Set.List
import Cgroup.Proofs.Path.Descending

/-!
# Canonical spellings

A path without `..` names the root and then what its walk ends at, so that cleaning it changes the
spelling and nothing else (`clean_equiv_self`). `clean_lawful` is the account of cleaning as a
whole: which texts it gives, what they depend on, and that it makes no difference whether the
beginning of a path has been cleaned before.
-/

namespace Cgroup.Path

/-! ## Paths without dot-dot -/

/-- A text without `..` spells names. -/
theorem exists_segments_eq_map_normal {s : List Char} (hup : .up ∉ segments s) :
    ∃ names : List (List Char), segments s = names.map .normal := by
  have hrange : segments s ∈ Set.range (List.map Component.normal) := by
    rw [Set.range_list_map]
    intro c hc
    rcases eq_up_or_isName_of_mem_segments hc with rfl | ⟨name, -, rfl⟩
    · exact absurd hc hup
    · exact ⟨name, rfl⟩
  obtain ⟨names, hnames⟩ := hrange
  exact ⟨names, hnames.symm⟩

/-- An absolute path without `..` has the root and the names where its walk ends as its
components. -/
theorem components_eq_settle {p : Path} (habs : p.isAbsolute = true) (hup : .up ∉ p.components) :
    p.components = .root :: (settle p.components).map .normal := by
  have hcs := components_of_isAbsolute habs
  obtain ⟨names, hnames⟩ := exists_segments_eq_map_normal fun h =>
    hup (hcs ▸ List.mem_cons_of_mem _ h)
  have hsettle : settle p.components = names := by
    rw [settle, walkFrom_components, hnames, walkFrom_map_normal, List.nil_append]
  rw [hsettle, hcs, hnames]

/-- Cleaning an absolute path without `..` only respells it. -/
theorem clean_equiv_self {p : Path} (habs : p.isAbsolute = true) (hup : .up ∉ p.components) :
    p.clean ≈ p := by
  rw [equiv_iff, components_clean, ← components_eq_settle habs hup]

/-! ## The laws of cleaning -/

theorem clean_clean (p : Path) : p.clean.clean = p.clean := by
  rw [clean_eq_ofNames p, clean_ofNames fun _ => isName_of_mem_settle]

/-- A slash in front of a path does not change what it is cleaned to. -/
theorem clean_cons_slash (s : List Char) : (Path.mk ('/' :: s)).clean = (Path.mk s).clean :=
  clean_eq_clean_iff.2 (walkFrom_cons_slash [] s)

/-- It does not matter whether a path was clean when another one was joined to it. -/
theorem clean_join_clean (p : Path) {q : Path} (hq : q.isAbsolute = false) :
    (p.join q).clean = (p.clean.join q).clean := by
  rw [clean_eq_ofNames p, clean_join_ofNames (fun _ => isName_of_mem_settle) hq, clean_eq_ofNames,
    settle, walkFrom_join [] p hq, settle]

/-- What a path is cleaned to. The text is a slash and names with single slashes between them, the
names are those on a stack after all components of the path have been through it, and each of them
can stand between slashes. The components alone decide it, and a slash in front of the path does
not change it. Cleaning twice is cleaning once, also if something was joined in between. An absolute
path without `..` keeps its components. -/
theorem clean_lawful (p : Path) :
    (∃ names, names = p.components.foldl Component.walk [] ∧ (∀ name ∈ names, IsName name) ∧
      p.clean = ⟨'/' :: ['/'].intercalate names⟩) ∧
    (∀ q : Path, p.components = q.components → p.clean = q.clean) ∧
    (Path.mk ('/' :: p.chars)).clean = p.clean ∧
    p.clean.clean = p.clean ∧
    (∀ q : Path, q.isAbsolute = false → (p.join q).clean = (p.clean.join q).clean) ∧
    (p.isAbsolute = true → .up ∉ p.components → p.clean.components = p.components) := by
  refine ⟨⟨settle p.components, rfl, fun _ => isName_of_mem_settle, clean_eq_ofNames p⟩,
    fun q hq => clean_eq_of_equiv hq, clean_cons_slash p.chars, clean_clean p, fun q hq => ?_,
    fun habs hup => ?_⟩
  · exact clean_join_clean p hq
  · exact clean_equiv_self habs hup

example : (Path.ofString "a//./b/../../../c/").clean = .ofString "/c" := by decide +kernel

end Cgroup.Path
