import Mathlib.Data.String.Basic
import Cgroup.Resolve.Membership

/-!
# The walk over recorded entries

`Table.localize` visits the entries of a record by ascending names and stops at the first one that
is stranded. This file says what a whole visit gives, from what one entry does:

* `localize_perm`: the order in which the entries are listed does not count;
* `localize_of_stranded`: if the record is stranded on a name, the visit ends with the least one;
* `localize_of_not_stranded`: otherwise it ends with the local path of each name that has one.
-/

namespace Cgroup

open Std (ExtTreeMap)

variable {r : Record} {t : Table}

/-! ## Listings of a record -/

namespace Record

theorem mem_toList_iff {name : String} {path : Path} :
    (name, path) ∈ r.toList ↔ r.get? name = some path :=
  ExtTreeMap.mem_toList_iff_getElem?_eq_some

theorem toList_ascending (r : Record) : r.toList.Pairwise fun a b => a.1 < b.1 :=
  ExtTreeMap.ordered_keys_toList.imp compare_lt_iff_lt.1

/-- Two entries of one name are the same entry. -/
theorem eq_of_mem_toList {a b : String × Path} (ha : a ∈ r.toList) (hb : b ∈ r.toList)
    (h : a.1 = b.1) : a = b := by
  obtain ⟨name, path⟩ := a
  obtain ⟨name', path'⟩ := b
  obtain rfl : name = name' := h
  have hpath := (mem_toList_iff.1 ha).symm.trans (mem_toList_iff.1 hb)
  rw [Option.some.inj hpath]

/-- Sorting any listing of a record by names gives the ascending one. -/
theorem mergeSort_of_perm {entries : List (String × Path)} (h : entries.Perm r.toList) :
    (entries.mergeSort fun a b => a.1 ≤ b.1) = r.toList := by
  have hsorted : (entries.mergeSort fun a b => a.1 ≤ b.1).Pairwise fun a b => a.1 ≤ b.1 := by
    have htrans : ∀ a b c : String × Path, decide (a.1 ≤ b.1) → decide (b.1 ≤ c.1) →
        decide (a.1 ≤ c.1) := by
      intro a b c hab hbc
      simp only [decide_eq_true_eq] at hab hbc ⊢
      exact String.le_trans hab hbc
    have htotal : ∀ a b : String × Path, decide (a.1 ≤ b.1) || decide (b.1 ≤ a.1) := by
      intro a b
      simpa using String.le_total a.1 b.1
    simpa using List.pairwise_mergeSort htrans htotal entries
  have hperm : (entries.mergeSort fun a b => a.1 ≤ b.1).Perm r.toList :=
    (List.mergeSort_perm entries _).trans h
  -- two entries of one name cannot differ, so that no two ascending listings do
  refine List.Perm.eq_of_pairwise ?_ hsorted (r.toList_ascending.imp le_of_lt) hperm
  intro a b ha hb hab hba
  exact eq_of_mem_toList (hperm.mem_iff.1 ha) hb (le_antisymm hab hba)

end Record

/-- The order in which the entries of a record are listed does not count. -/
theorem Table.localize_perm {entries : List (String × Path)} (h : entries.Perm r.toList) :
    t.localize entries = r.toList.foldlM t.addLocal ∅ := by
  rw [Table.localize, Record.mergeSort_of_perm h]

/-! ## One entry -/

namespace Table

/-- A visit stops at an entry whose hierarchy is not mounted and whose path is not the root. -/
def Strands (t : Table) (entry : String × Path) : Prop :=
  t.destination? entry.1 = none ∧ ¬ entry.2 ≈ Path.root

instance (t : Table) (entry : String × Path) : Decidable (t.Strands entry) :=
  inferInstanceAs (Decidable (_ ∧ _))

/-- The path of an entry as its mount shows it, if there is a mount. -/
def localPath? (t : Table) (entry : String × Path) : Option Path :=
  (t.destination? entry.1).map (·.localizeAt entry.2)

variable {entry : String × Path} {entries : List (String × Path)}

theorem addLocal_of_strands (paths : ExtTreeMap String Path) (h : t.Strands entry) :
    t.addLocal paths entry = .error (.noDestination entry.1) := by
  unfold addLocal
  rw [h.1]
  exact if_neg h.2

/-- An entry that does not stop the visit adds its local path, if it has one, and changes no
other. -/
theorem exists_addLocal_of_not_strands (paths : ExtTreeMap String Path)
    (h : ¬ t.Strands entry) :
    ∃ next, t.addLocal paths entry = .ok next ∧
      ∀ name, next[name]? = if name = entry.1 then (t.localPath? entry).or paths[name]?
        else paths[name]? := by
  unfold addLocal localPath?
  cases hdest : t.destination? entry.1 with
  | none =>
    have hroot : entry.2 ≈ Path.root := by
      by_contra hne
      exact h ⟨hdest, hne⟩
    refine ⟨paths, if_pos hroot, fun name => ?_⟩
    simp
  | some top =>
    refine ⟨_, rfl, fun name => ?_⟩
    rw [ExtTreeMap.getElem?_insert]
    by_cases hname : name = entry.1
    · simp [hname]
    · have hne : compare entry.1 name ≠ .eq := fun h => hname (Std.compare_eq_iff_eq.1 h).symm
      simp [hname, hne]

/-! ## All entries -/

/-- A visit stops at the first entry that strands. -/
theorem foldlM_addLocal_of_strands (paths : ExtTreeMap String Path)
    {before after : List (String × Path)} (hbefore : ∀ e ∈ before, ¬ t.Strands e)
    (h : t.Strands entry) :
    (before ++ entry :: after).foldlM t.addLocal paths = .error (.noDestination entry.1) := by
  induction before generalizing paths with
  | nil =>
    rw [List.nil_append, List.foldlM_cons, addLocal_of_strands paths h]
    rfl
  | cons first before ih =>
    obtain ⟨next, hnext, -⟩ :=
      exists_addLocal_of_not_strands paths (hbefore first List.mem_cons_self)
    rw [List.cons_append, List.foldlM_cons, hnext]
    exact ih next fun e he => hbefore e (List.mem_cons_of_mem first he)

/-- A visit that nothing stops collects the local paths. -/
theorem exists_foldlM_addLocal (paths : ExtTreeMap String Path)
    (hnone : ∀ e ∈ entries, ¬ t.Strands e) (hdistinct : entries.Pairwise fun a b => a.1 ≠ b.1) :
    ∃ last, entries.foldlM t.addLocal paths = .ok last ∧
      ∀ name, last[name]? =
        ((entries.find? (·.1 = name)).bind t.localPath?).or paths[name]? := by
  induction entries generalizing paths with
  | nil => exact ⟨paths, rfl, fun name => rfl⟩
  | cons first entries ih =>
    rw [List.pairwise_cons] at hdistinct
    obtain ⟨next, hnext, hget⟩ :=
      exists_addLocal_of_not_strands paths (hnone first List.mem_cons_self)
    obtain ⟨last, hlast, hgets⟩ :=
      ih next (fun e he => hnone e (List.mem_cons_of_mem first he)) hdistinct.2
    refine ⟨last, ?_, fun name => ?_⟩
    · rw [List.foldlM_cons, hnext]
      exact hlast
    · rw [hgets, hget, List.find?_cons]
      by_cases hname : name = first.1
      · -- no later entry has the name of this one
        have hlater : entries.find? (·.1 = name) = none := by
          rw [List.find?_eq_none]
          intro e he heq
          have he' : e.1 = name := by simpa using heq
          exact hdistinct.1 e he (hname.symm.trans he'.symm)
        simp [hname ▸ hlater, hname]
      · simp [hname, Ne.symm hname]

end Table

/-! ## The entries of a record -/

theorem Record.strandedAt_iff {name : String} :
    r.StrandedAt t name ↔ ∃ path, (name, path) ∈ r.toList ∧ t.Strands (name, path) := by
  constructor
  · rintro ⟨hdest, path, hget, hroot⟩
    exact ⟨path, mem_toList_iff.2 hget, hdest, hroot⟩
  · rintro ⟨path, hmem, hdest, hroot⟩
    exact ⟨hdest, path, mem_toList_iff.1 hmem, hroot⟩

/-- Being stranded nowhere can be told from the entries. -/
theorem Record.stranded_nowhere_iff :
    (∀ name, ¬ r.StrandedAt t name) ↔ ∀ entry ∈ r.toList, ¬ t.Strands entry := by
  constructor
  · intro h entry hentry hs
    exact h entry.1 (strandedAt_iff.2 ⟨entry.2, hentry, hs⟩)
  · intro h name hname
    obtain ⟨path, hmem, hs⟩ := strandedAt_iff.1 hname
    exact h (name, path) hmem hs

theorem Record.find?_toList (r : Record) (name : String) :
    r.toList.find? (·.1 = name) = (r.get? name).map fun path => (name, path) := by
  cases hfind : r.toList.find? (·.1 = name) with
  | some entry =>
    obtain ⟨name', path⟩ := entry
    obtain rfl : name' = name := by simpa using List.find?_some hfind
    rw [mem_toList_iff.1 (List.mem_of_find?_eq_some hfind), Option.map_some]
  | none =>
    rw [List.find?_eq_none] at hfind
    cases hget : r.get? name with
    | none => rfl
    | some path => simpa using hfind (name, path) (mem_toList_iff.2 hget)

/-- The path recorded for a name as the mount of that name shows it. -/
def Record.localPath? (r : Record) (t : Table) (name : String) : Option Path :=
  (r.get? name).bind fun path => t.localPath? (name, path)

/-- A visit of a stranded record ends with the least name that it is stranded on. -/
theorem localize_of_stranded (h : ∃ name, r.StrandedAt t name) :
    ∃ name, r.StrandedAt t name ∧ (∀ other, r.StrandedAt t other → name ≤ other) ∧
      t.localize r.toList = .error (.noDestination name) := by
  -- the first entry that strands has the least name, because the names ascend
  obtain ⟨entry, before, after, hlist, hstrands, hbefore⟩ : ∃ entry before after,
      r.toList = before ++ entry :: after ∧ t.Strands entry ∧ ∀ e ∈ before, ¬ t.Strands e := by
    obtain ⟨name, hname⟩ := h
    obtain ⟨path, hmem, hstrands⟩ := Record.strandedAt_iff.1 hname
    have hsome : (r.toList.find? fun e => decide (t.Strands e)).isSome :=
      List.find?_isSome.2 ⟨(name, path), hmem, decide_eq_true hstrands⟩
    obtain ⟨entry, hentry⟩ := Option.isSome_iff_exists.1 hsome
    obtain ⟨hs, before, after, hlist, hbefore⟩ := List.find?_eq_some_iff_append.1 hentry
    refine ⟨entry, before, after, hlist, of_decide_eq_true hs, fun e he => ?_⟩
    simpa using hbefore e he
  refine ⟨entry.1, ?_, ?_, ?_⟩
  · refine Record.strandedAt_iff.2 ⟨entry.2, ?_, hstrands⟩
    rw [hlist]
    exact List.mem_append_right before List.mem_cons_self
  · intro other hother
    obtain ⟨path, hmem, hs⟩ := Record.strandedAt_iff.1 hother
    have hasc := r.toList_ascending
    rw [hlist, List.pairwise_append, List.pairwise_cons] at hasc
    rw [hlist, List.mem_append, List.mem_cons] at hmem
    rcases hmem with hmem | rfl | hmem
    · exact absurd hs (hbefore _ hmem)
    · exact le_refl other
    · exact le_of_lt (hasc.2.1.1 _ hmem)
  · rw [Table.localize_perm (List.Perm.refl _), hlist]
    exact Table.foldlM_addLocal_of_strands ∅ hbefore hstrands

/-- A visit of a record that is stranded nowhere collects all its local paths. -/
theorem localize_of_not_stranded (h : ∀ name, ¬ r.StrandedAt t name) :
    ∃ paths, t.localize r.toList = .ok paths ∧ ∀ name, paths[name]? = r.localPath? t name := by
  have hnone : ∀ e ∈ r.toList, ¬ t.Strands e := Record.stranded_nowhere_iff.1 h
  have hdistinct : r.toList.Pairwise fun a b => a.1 ≠ b.1 := r.toList_ascending.imp ne_of_lt
  obtain ⟨paths, hpaths, hget⟩ := Table.exists_foldlM_addLocal ∅ hnone hdistinct
  refine ⟨paths, ?_, fun name => ?_⟩
  · rw [Table.localize_perm (List.Perm.refl _), hpaths]
  · rw [hget, r.find?_toList, Record.localPath?, ExtTreeMap.getElem?_empty, Option.or_none]
    cases r.get? name <;> rfl

end Cgroup
