import Cgroup.Proofs.Record.Variants

/-!
# Streams one after the other

Two streams with a newline between them are read as one. The lines of the whole are not always those
of the parts: a first part that is empty or ends in a newline gets a blank line more, and a carriage
return at its end becomes a part of the line end. Neither changes what is read, which is told as
well by the pieces between newlines (`entries_eq_entriesOn`), and these are the pieces of the first
part and then those of the second. The entries of both come one after the other therefore
(`entries_append_newline`), and `read_append_newline` says what this means for the record.
-/

namespace Cgroup.Record

variable {source : Path}

/-! ## Entries -/

/-- The entries on given lines, or the first offence. -/
def entriesOn (source : Path) (ls : List (List UInt8)) : Except RecordError (List Entry) :=
  (ls.mapM (entryOnLine source)).map (·.filterMap id)

/-- More lines are read after all others, if these can be read. -/
theorem entriesOn_append (source : Path) (ls ls' : List (List UInt8)) :
    entriesOn source (ls ++ ls') =
      (entriesOn source ls).bind fun entries => (entriesOn source ls').map (entries ++ ·) := by
  unfold entriesOn
  rw [List.mapM_append]
  cases ls.mapM (entryOnLine source) with
  | error error => rfl
  | ok said =>
    cases ls'.mapM (entryOnLine source) with
    | error error => rfl
    | ok said' => exact congrArg Except.ok List.filterMap_append

theorem entries_eq_entriesOn_lines (source : Path) (bytes : List UInt8) :
    entries source bytes = entriesOn source (Text.lines bytes) := by
  unfold entries entriesOn
  cases (Text.lines bytes).mapM (entryOnLine source) <;> rfl

/-- An empty line is blank. -/
theorem entriesOn_empty (source : Path) : entriesOn source [[]] = .ok [] := by
  have hblank : entryOnLine source [] = .ok none :=
    (Says.blank rfl (Text.trims_trim [])).entryOnLine source
  rw [entriesOn, List.mapM_cons, hblank]
  rfl

/-- A carriage return at the end of a line is blank as well. -/
theorem entriesOn_dropReturn (source : Path) (line : List UInt8) :
    entriesOn source [Text.dropReturn line] = entriesOn source [line] := by
  refine Text.apply_dropReturn (f := fun line => entriesOn source [line]) (fun line => ?_) line
  simp only [entriesOn, List.mapM_cons, entryOnLine_append_return]

/-- The entries of a stream are told by the pieces between its newlines. -/
theorem entries_eq_entriesOn (source : Path) (bytes : List UInt8) :
    entries source bytes = entriesOn source (bytes.splitOn 10) := by
  rw [entries_eq_entriesOn_lines]
  induction bytes using Text.cut_induction (10 : UInt8) with
  | piece s hs =>
    rw [Text.lines_of_not_mem hs, List.splitOn_eq_singleton hs]
    split
    · rename_i hnil
      rw [hnil, entriesOn_empty]
      rfl
    · rfl
  | cut s t hs ih =>
    rw [Text.lines_append_newline hs, List.splitOn_append_cons_self, List.splitOn_eq_singleton hs,
      ← List.singleton_append, entriesOn_append, entriesOn_append, entriesOn_dropReturn, ih]

/-- The entries of two streams with a newline between them are those of the first and then those of
the second. -/
theorem entries_append_newline (source : Path) (a b : List UInt8) :
    entries source (a ++ 10 :: b) =
      (entries source a).bind fun before => (entries source b).map (before ++ ·) := by
  rw [entries_eq_entriesOn, entries_eq_entriesOn, entries_eq_entriesOn,
    List.splitOn_append_cons_self, entriesOn_append]

/-! ## Records -/

/-- A record is what its entries make, and fails only as they do. -/
theorem read_eq_map_entries (source : Path) (bytes : List UInt8) :
    read source bytes = (entries source bytes).map ofEntries := by
  unfold read
  cases entries source bytes <;> rfl

theorem exists_entries_of_read {bytes : List UInt8} {r : Record}
    (hr : read source bytes = .ok r) :
    ∃ es, entries source bytes = .ok es ∧ ofEntries es = r := by
  rw [read_eq_map_entries] at hr
  cases hes : entries source bytes with
  | error error => simp [hes, Except.map] at hr
  | ok es => exact ⟨es, rfl, by simpa [hes, Except.map] using hr⟩

theorem entries_of_read_error {bytes : List UInt8} {error : RecordError}
    (herror : read source bytes = .error error) : entries source bytes = .error error := by
  rw [read_eq_map_entries] at herror
  cases hes : entries source bytes with
  | error error' => simpa [hes, Except.map] using herror
  | ok es => simp [hes, Except.map] at herror

/-- A later entry counts more for each of its names. -/
theorem get?_ofEntries_append (before after : List Entry) (name : String) :
    (ofEntries (before ++ after)).get? name =
      ((ofEntries after).get? name).or ((ofEntries before).get? name) := by
  rw [get?_ofEntries, get?_ofEntries, get?_ofEntries, List.filterMap_append, List.getLast?_append]

theorem unified_ofEntries_append (before after : List Entry) :
    (ofEntries (before ++ after)).unified =
      (ofEntries after).unified.or (ofEntries before).unified := by
  rw [unified_ofEntries, unified_ofEntries, unified_ofEntries, List.filterMap_append,
    List.getLast?_append]

/-- What two streams with a newline between them are read as. An error of the first one is reported,
else one of the second. If both are records, so is the whole: it has the path that the second has
for a name, or the one of the first if the second has none, and likewise for the version 2
hierarchy. -/
theorem read_append_newline (source : Path) (a b : List UInt8) :
    (∀ error, read source a = .error error → read source (a ++ 10 :: b) = .error error) ∧
    (∀ r error, read source a = .ok r → read source b = .error error →
      read source (a ++ 10 :: b) = .error error) ∧
    ∀ r r', read source a = .ok r → read source b = .ok r' →
      ∃ whole, read source (a ++ 10 :: b) = .ok whole ∧
        (∀ name, whole.get? name = (r'.get? name).or (r.get? name)) ∧
        whole.unified = r'.unified.or r.unified := by
  refine ⟨fun error ha => ?first, fun r error ha hb => ?second, fun r r' ha hb => ?whole⟩
  case first =>
    rw [read_eq_map_entries, entries_append_newline, entries_of_read_error ha]
    rfl
  case second =>
    obtain ⟨before, hbefore, -⟩ := exists_entries_of_read ha
    rw [read_eq_map_entries, entries_append_newline, hbefore, entries_of_read_error hb]
    rfl
  case whole =>
    obtain ⟨before, hbefore, rfl⟩ := exists_entries_of_read ha
    obtain ⟨after, hafter, rfl⟩ := exists_entries_of_read hb
    refine ⟨ofEntries (before ++ after), ?_, get?_ofEntries_append before after,
      unified_ofEntries_append before after⟩
    rw [read_eq_map_entries, entries_append_newline, hbefore, hafter]
    rfl

example :
    ofBytes (Text.encode "4:memory:/a\r".toList ++ 10 :: [0xff, 13]) =
      .error (.cannotRead .empty .notUtf8) := by cbv

end Cgroup.Record
