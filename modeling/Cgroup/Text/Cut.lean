/-!
# Cutting a text at a separator

`cut? sep s` cuts `s` at the first occurrence of `sep`. `cut?_eq_some_iff` pins it down: the
separator goes between the two parts, and the first part is free of it. With `cut_induction` a
proof follows a text from cut to cut. Cutting at every separator is `List.splitOn`;
`not_mem_of_mem_splitOn` says that its pieces are free of the separator, `not_mem_intercalate` that
putting pieces together adds nothing but separators.
-/

namespace Cgroup.Text

variable {α : Type} [DecidableEq α]

/-- The parts of a list before and after the first `sep` in it. -/
def cut? (sep : α) : List α → Option (List α × List α)
  | [] => none
  | x :: s => if x = sep then some ([], s) else (cut? sep s).map fun (a, b) => (x :: a, b)

/-- A cut gives back the list that was cut, and takes the first separator. -/
theorem cut?_eq_some_iff {sep : α} {s a b : List α} :
    cut? sep s = some (a, b) ↔ s = a ++ sep :: b ∧ sep ∉ a := by
  induction s generalizing a with
  | nil => simp [cut?]
  | cons x s ih =>
    by_cases h : x = sep
    · cases a <;> simp [cut?, h]
      rintro rfl rfl hsep
      exact absurd rfl hsep
    · cases a with
      | nil => simp [cut?, h]
      | cons y a =>
        simp only [cut?, if_neg h, Option.map_eq_some_iff, Prod.mk.injEq, Prod.exists,
          List.cons.injEq, List.cons_append, List.mem_cons, not_or]
        constructor
        · rintro ⟨a', b', hs, ⟨rfl, rfl⟩, rfl⟩
          exact ⟨⟨rfl, (ih.1 hs).1⟩, fun e => h e.symm, (ih.1 hs).2⟩
        · rintro ⟨⟨rfl, hs⟩, -, ha⟩
          exact ⟨a, b, ih.2 ⟨hs, ha⟩, ⟨rfl, rfl⟩, rfl⟩

/-- A list is not cut exactly when the separator does not occur in it. -/
theorem cut?_eq_none_iff {sep : α} {s : List α} : cut? sep s = none ↔ sep ∉ s := by
  induction s with
  | nil => simp [cut?]
  | cons x s ih =>
    by_cases h : x = sep
    · simp [cut?, h]
    · simp [cut?, h, ih, Ne.symm h]

/-- What holds of all texts without a separator, and of a text with one more piece in front if it
holds of the text, holds of all texts. -/
@[elab_as_elim]
theorem cut_induction (sep : α) {motive : List α → Prop}
    (piece : ∀ s, sep ∉ s → motive s)
    (cut : ∀ s t, sep ∉ s → motive t → motive (s ++ sep :: t))
    (s : List α) : motive s := by
  induction hn : s.length using Nat.strongRecOn generalizing s with
  | ind n ih =>
    -- the first separator decides the case; what is behind it is shorter
    cases hcut : cut? sep s with
    | none => exact piece s (cut?_eq_none_iff.1 hcut)
    | some parts =>
      obtain ⟨first, rest⟩ := parts
      obtain ⟨rfl, hfirst⟩ := cut?_eq_some_iff.1 hcut
      have hlt : rest.length < n := by
        rw [← hn, List.length_append, List.length_cons]
        omega
      exact cut first rest hfirst (ih rest.length hlt rest rfl)

/-! ## Pieces -/

/-- A separator stands in no piece that it separates. -/
theorem not_mem_of_mem_splitOn {sep : α} {s piece : List α}
    (h : piece ∈ s.splitOn sep) : sep ∉ piece := by
  induction s generalizing piece with
  | nil =>
    rw [List.splitOn_nil, List.mem_singleton] at h
    simp [h]
  | cons x s ih =>
    rw [List.splitOn_cons_eq_if_modifyHead] at h
    split at h
    · rcases List.mem_cons.1 h with rfl | h
      · simp
      · exact ih h
    · rename_i hx
      obtain ⟨first, rest, he⟩ := List.exists_cons_of_ne_nil (List.splitOn_ne_nil sep s)
      rw [he, List.modifyHead_cons] at h
      rcases List.mem_cons.1 h with rfl | h
      · have hfirst : sep ∉ first := ih (he ▸ List.mem_cons_self)
        rintro hmem
        rcases List.mem_cons.1 hmem with rfl | hmem
        · exact hx (beq_self_eq_true sep)
        · exact hfirst hmem
      · exact ih (he ▸ List.mem_cons_of_mem _ h)

omit [DecidableEq α] in
/-- A character that is not the separator is only in the pieces. -/
theorem not_mem_intercalate {a sep : α} {pieces : List (List α)} (hsep : a ≠ sep)
    (h : ∀ piece ∈ pieces, a ∉ piece) : a ∉ [sep].intercalate pieces := by
  induction pieces with
  | nil => simp
  | cons first pieces ih =>
    rw [List.forall_mem_cons] at h
    cases pieces with
    | nil => simpa using h.1
    | cons second pieces =>
      rw [List.intercalate_cons_cons]
      simp [h.1, hsep, ih h.2]

end Cgroup.Text
