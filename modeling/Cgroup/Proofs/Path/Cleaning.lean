import Cgroup.Path.Clean
import Cgroup.Proofs.Path.Below

/-!
# Cleaning as a walk

`clean` edits a text, one component after the other. `clean_eq_ofNames` says what comes of it: the
names where the walk over the components ends, spelled with single slashes behind the root. The
invariant is that the text so far is `ofNames` of the names that the walk has entered; a join
enters one more name (`join_ofNames`), and the parent leaves the last one (`parent?_ofNames`).
-/

namespace Cgroup.Path

/-! ## The text that names spell -/

theorem ofNames_nil : ofNames [] = root := rfl

theorem chars_ofNames_singleton (name : List Char) : (ofNames [name]).chars = '/' :: name := by
  rw [ofNames, List.intercalate_singleton]

theorem intercalate_concat {names : List (List Char)} (h : names ≠ []) (name : List Char) :
    ['/'].intercalate (names ++ [name]) = ['/'].intercalate names ++ '/' :: name := by
  induction names with
  | nil => exact absurd rfl h
  | cons first names ih =>
    cases names with
    | nil => simp [List.intercalate_cons_cons]
    | cons next names =>
      rw [List.cons_append, List.cons_append, List.intercalate_cons_cons,
        List.intercalate_cons_cons, ← List.cons_append, ih (by simp)]
      simp

theorem chars_ofNames_concat {names : List (List Char)} (h : names ≠ []) (name : List Char) :
    (ofNames (names ++ [name])).chars = (ofNames names).chars ++ '/' :: name := by
  show '/' :: ['/'].intercalate (names ++ [name]) = '/' :: ['/'].intercalate names ++ '/' :: name
  rw [intercalate_concat h, List.cons_append]

theorem isAbsolute_ofNames (names : List (List Char)) : (ofNames names).isAbsolute = true := by
  simp [ofNames, isAbsolute]

/-- The text of the first names is a beginning of the text of all. -/
theorem ofNames_isPrefix_concat (names : List (List Char)) (name : List Char) :
    (ofNames names).chars <+: (ofNames (names ++ [name])).chars := by
  by_cases h : names = []
  · subst h
    exact ⟨name, (chars_ofNames_singleton name).symm⟩
  · exact ⟨'/' :: name, (chars_ofNames_concat h name).symm⟩

/-- No text with the components of given names below the root is shorter than `ofNames`. -/
theorem length_ofNames_le {s : List Char} {names : List (List Char)}
    (h : (Path.mk s).components = .root :: names.map .normal) :
    (ofNames names).chars.length ≤ s.length := by
  have habs : (Path.mk s).isAbsolute = true := isAbsolute_iff.2 (by simp [h])
  rw [components_of_isAbsolute habs] at h
  obtain ⟨t, rfl⟩ : ∃ t, s = '/' :: t := by
    cases s with
    | nil => simp [isAbsolute] at habs
    | cons c t => exact ⟨t, by simpa [isAbsolute] using habs⟩
  have hsegs : segments t = names.map .normal := by
    simpa using (List.cons.inj h).2
  have hle := length_intercalate_le hsegs
  rw [ofNames, List.length_cons, List.length_cons]
  omega

/-! ## One component -/

/-- Joining a name enters it. -/
theorem join_ofNames {names : List (List Char)} (hnames : ∀ name ∈ names, IsName name)
    {name : List Char} (hname : IsName name) :
    (ofNames names).join ⟨name⟩ = ofNames (names ++ [name]) := by
  have hrel : (Path.mk name).isAbsolute = false := by
    rw [← Bool.not_eq_true, isAbsolute, decide_eq_true_eq]
    intro h
    exact hname.2.1 (List.mem_of_mem_head? h)
  rcases List.eq_nil_or_concat names with rfl | ⟨init, last, rfl⟩
  · simp [join, hrel, ofNames]
  · rw [List.concat_eq_append] at hnames ⊢
    have hlast : IsName last := hnames last (by simp)
    -- the text ends in the last name, so that a slash has to be put behind it
    have hend : (ofNames (init ++ [last])).chars.getLast? ≠ some '/' := by
      obtain ⟨front, hfront⟩ : ∃ front, (ofNames (init ++ [last])).chars = front ++ last := by
        by_cases hinit : init = []
        · exact ⟨['/'], by rw [hinit]; exact chars_ofNames_singleton last⟩
        · exact ⟨(ofNames init).chars ++ ['/'], by simp [chars_ofNames_concat hinit]⟩
      rw [hfront, List.getLast?_append_of_ne_nil front hlast.1]
      intro h
      exact hlast.2.1 (List.mem_of_mem_getLast? h)
    have hne : (ofNames (init ++ [last])).chars ≠ [] := by simp [ofNames]
    unfold join
    rw [if_neg (by simp [hrel]), if_neg (by simp [hend, hne])]
    rw [← chars_ofNames_concat (by simp)]

/-- Below the root, the parent leaves the last name. -/
theorem parent?_ofNames {names : List (List Char)} (hnames : ∀ name ∈ names, IsName name)
    (hne : names ≠ []) : (ofNames names).parent? = some (ofNames names.dropLast) := by
  obtain ⟨init, last, rfl⟩ := (List.eq_nil_or_concat names).resolve_left hne
  rw [List.concat_eq_append] at hnames ⊢
  have hinit : ∀ name ∈ init, IsName name := fun name h => hnames name (by simp [h])
  have hcs := components_ofNames hnames
  have hlast : (ofNames (init ++ [last])).components.getLast? = some (.normal last) := by
    rw [hcs, List.map_append, ← List.cons_append, List.map_singleton, List.getLast?_concat]
  have hdrop : (ofNames (init ++ [last])).components.dropLast = (ofNames init).components := by
    rw [hcs, List.map_append, ← List.cons_append, List.map_singleton, List.dropLast_concat,
      components_ofNames hinit]
  -- other beginnings of the text with these components end in a slash, and are longer
  unfold parent?
  rw [hlast, hdrop, List.dropLast_concat]
  apply beginning?_eq_some (ofNames_isPrefix_concat init last)
  intro s hs hcomps
  rw [components_ofNames hinit] at hcomps
  have := length_ofNames_le hcomps
  omega

theorem parent?_root : root.parent? = none := rfl

/-- One step of cleaning is one step of the walk. -/
theorem enter_ofNames {names : List (List Char)} (hnames : ∀ name ∈ names, IsName name)
    {c : Component} (hc : ∀ name, c = .normal name → IsName name) :
    (ofNames names).enter c = ofNames (c.walk names) := by
  cases c with
  | root => rfl
  | here => rfl
  | normal name => exact join_ofNames hnames (hc name rfl)
  | up =>
    show (ofNames names).parent?.getD (ofNames names) = ofNames names.dropLast
    by_cases hne : names = []
    · rw [hne, ofNames_nil, parent?_root]
      rfl
    · rw [parent?_ofNames hnames hne, Option.getD_some]

/-! ## All components -/

/-- Cleaning from a text of names is a walk from these names. -/
theorem foldl_enter_ofNames {names : List (List Char)} (hnames : ∀ name ∈ names, IsName name)
    {cs : List Component} (hcs : ∀ name, .normal name ∈ cs → IsName name) :
    cs.foldl enter (ofNames names) = ofNames (walkFrom names cs) := by
  induction cs generalizing names with
  | nil => rfl
  | cons c cs ih =>
    have hc : ∀ name, c = .normal name → IsName name := fun name h => hcs name (by simp [h])
    -- the invariant: what the walk has entered are names, so that the text spells them
    have hnext : ∀ name ∈ c.walk names, IsName name :=
      isName_of_mem_walkFrom hnames fun name h => hc name (List.mem_singleton.1 h).symm
    rw [List.foldl_cons, enter_ofNames hnames hc,
      ih hnext fun name h => hcs name (List.mem_cons_of_mem _ h)]
    rfl

/-- The clean path spells the names where the walk over the components ends. -/
theorem clean_eq_ofNames (p : Path) : p.clean = ofNames (settle p.components) := by
  rw [clean, ← ofNames_nil]
  exact foldl_enter_ofNames (by simp) fun _ => isName_of_normal_mem_components

theorem isAbsolute_clean (p : Path) : p.clean.isAbsolute = true := by
  rw [clean_eq_ofNames]
  exact isAbsolute_ofNames _

/-- A clean path has the root and the names where the walk ends as its components. -/
theorem components_clean (p : Path) :
    p.clean.components = .root :: (settle p.components).map .normal := by
  rw [clean_eq_ofNames]
  exact components_ofNames fun _ => isName_of_mem_settle

theorem segments_clean (p : Path) :
    segments p.clean.chars = (settle p.components).map .normal := by
  have h := components_clean p
  rw [components_of_isAbsolute (isAbsolute_clean p)] at h
  exact (List.cons.inj h).2

/-! ## Walks over names -/

theorem walkFrom_map_normal (names more : List (List Char)) :
    walkFrom names (more.map .normal) = names ++ more := by
  induction more generalizing names with
  | nil => exact (List.append_nil names).symm
  | cons name more ih =>
    rw [List.map_cons]
    show walkFrom (names ++ [name]) (more.map .normal) = _
    rw [ih, List.append_assoc, List.singleton_append]

/-- The beginning of a text does not move a walk, only the segments do. -/
theorem walkFrom_components (names : List (List Char)) (p : Path) :
    walkFrom names p.components = walkFrom names (segments p.chars) := by
  rw [components, walkFrom_append]
  congr 1
  unfold lead
  split <;> rfl

/-- The walk over a text of names ends at these names. -/
theorem settle_components_ofNames {names : List (List Char)} (h : ∀ name ∈ names, IsName name) :
    settle (ofNames names).components = names := by
  rw [components_ofNames h]
  show walkFrom [] (names.map .normal) = names
  rw [walkFrom_map_normal, List.nil_append]

/-- A clean path is left as it is. -/
theorem clean_ofNames {names : List (List Char)} (h : ∀ name ∈ names, IsName name) :
    (ofNames names).clean = ofNames names := by
  rw [clean_eq_ofNames, settle_components_ofNames h]

/-- Two paths have one clean spelling exactly when their walks end at the same names. -/
theorem clean_eq_clean_iff {p q : Path} :
    p.clean = q.clean ↔ settle p.components = settle q.components := by
  constructor
  · intro h
    have hcs := congrArg components h
    rw [components_clean, components_clean] at hcs
    exact List.map_injective_iff.2 (fun _ _ => Component.normal.inj) (List.cons.inj hcs).2
  · intro h
    rw [clean_eq_ofNames, clean_eq_ofNames, h]

end Cgroup.Path
