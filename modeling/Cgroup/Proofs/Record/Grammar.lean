import Cgroup.Proofs.Text.Lines
import Cgroup.Proofs.Text.Numeral
import Cgroup.Record.Entry

/-!
# The grammar of an entry

What a line has to look like to be an entry, and what is wrong with it otherwise, said without
reading it: `Spells` puts a line together from its fields, `Offends` says which fault a line has.
`parse_eq_ok_iff` and `parse_eq_error_iff` hold `Entry.parse` to them, so that no line has both an
entry and a fault, and every line has one of the two.
-/

namespace Cgroup

namespace Entry

open Numeral

/-! ## Lines -/

/-- The three fields of a line: the text in front of the first colon, the text between the first
and the second, and all the rest. -/
structure Fields (line id names path : List Char) : Prop where
  eq : line = id ++ ':' :: (names ++ ':' :: path)
  id_free : ':' ∉ id
  names_free : ':' ∉ names

/-- A list of names, none of them empty, with commas between them. -/
structure IsNameList (text : List Char) (names : List (List Char)) : Prop where
  ne_nil : names ≠ []
  name : ∀ name ∈ names, name ≠ [] ∧ ',' ∉ name
  eq : text = [','].intercalate names

/-- The lines that spell an entry. -/
inductive Spells (line : List Char) : Entry → Prop where
  /-- The entry of the version 2 hierarchy has no names and the id 0. -/
  | unified {id path : List Char} (hline : Fields line id [] path) (hid : IsWord32 id 0) :
      Spells line (.unified ⟨path⟩)
  /-- Any other entry has names, and any id. -/
  | hierarchy {id text path : List Char} {n : UInt32} {names : List (List Char)}
      (hline : Fields line id text path) (hid : IsWord32 id n.toNat)
      (hnames : IsNameList text names) :
      Spells line (.hierarchy n (names.map String.ofList) ⟨path⟩)

/-- The lines that spell no entry, each with its fault. A fault counts only where those in front of
it in the list do not occur. -/
inductive Offends (line : List Char) : EntryFault → Prop where
  /-- There are too few colons. -/
  | fields (hcount : line.count ':' < 2) : Offends line .fields
  /-- The first field is no numeral. -/
  | hierarchyId {id names path : List Char} (hline : Fields line id names path)
      (hid : ∀ value, ¬ IsWord32 id value) : Offends line .hierarchyId
  /-- The second field is no list of names, and neither is it empty with the id 0 in front of
  it. -/
  | emptyName {id text path : List Char} {value : Nat} (hline : Fields line id text path)
      (hid : IsWord32 id value) (hunified : ¬ (text = [] ∧ value = 0))
      (hnames : ∀ names, ¬ IsNameList text names) : Offends line .emptyName

/-! ## Fields -/

/-- A line has three fields if it has two colons. -/
theorem exists_fields {line : List Char} (h : 2 ≤ line.count ':') :
    ∃ id names path, Fields line id names path := by
  have hfirst : ':' ∈ line := List.count_pos_iff.1 (by omega)
  obtain ⟨id, rest, rfl, hid⟩ := List.eq_append_cons_of_mem hfirst
  rw [List.count_append, List.count_cons_self, List.count_eq_zero.2 hid] at h
  have hsecond : ':' ∈ rest := List.count_pos_iff.1 (by omega)
  obtain ⟨names, path, rfl, hnames⟩ := List.eq_append_cons_of_mem hsecond
  exact ⟨id, names, path, rfl, hid, hnames⟩

/-- A line with two colons is read by its fields. -/
theorem Fields.parse {line id names path : List Char} (h : Fields line id names path) :
    parse line = match word32? id with
      | none => .error .hierarchyId
      | some n => ofNames n names ⟨path⟩ := by
  have hfirst : Text.cut? ':' line = some (id, names ++ ':' :: path) :=
    Text.cut?_eq_some_iff.2 ⟨h.eq, h.id_free⟩
  have hsecond : Text.cut? ':' (names ++ ':' :: path) = some (names, path) :=
    Text.cut?_eq_some_iff.2 ⟨rfl, h.names_free⟩
  cases hid : word32? id with
  | none => simp only [Entry.parse, hfirst, hsecond, hid]
  | some n => simp only [Entry.parse, hfirst, hsecond, hid]

/-- A line begins in its id and ends in its path or in a colon, so that no blank is trimmed from it
unless its path ends in one. -/
theorem Fields.trims {line id names path : List Char} (h : Fields line id names path) {value : Nat}
    (hid : IsWord32 id value) (hend : ∀ c ∈ path.getLast?, Text.isBlank c = false)
    {front back : List Char} (hfront : ∀ c ∈ front, Text.isBlank c)
    (hback : ∀ c ∈ back, Text.isBlank c) : Text.Trims (front ++ line ++ back) line where
  blanks := ⟨front, back, hfront, hback, rfl⟩
  head := by
    intro c hc
    obtain ⟨first, rest, hcons, hfirst⟩ := hid.exists_cons
    rw [h.eq, hcons] at hc
    obtain rfl : first = c := Option.some.inj hc
    exact hfirst
  last := by
    intro c hc
    rw [h.eq, List.append_cons, ← List.append_assoc, List.append_cons, List.getLast?_append] at hc
    rcases Option.or_eq_some_iff.1 hc with hc | ⟨-, hc⟩
    · exact hend c hc
    · rw [List.getLast?_concat] at hc
      obtain rfl : ':' = c := Option.some.inj hc
      decide

/-- A line with fewer colons is not read. -/
theorem parse_of_count_lt {line : List Char} (h : line.count ':' < 2) :
    parse line = .error .fields := by
  unfold parse
  cases hfirst : Text.cut? ':' line with
  | none => rfl
  | some parts =>
    obtain ⟨id, rest⟩ := parts
    obtain ⟨rfl, -⟩ := Text.cut?_eq_some_iff.1 hfirst
    rw [List.count_append, List.count_cons_self] at h
    have hnone : Text.cut? ':' rest = none :=
      Text.cut?_eq_none_iff.2 (List.count_eq_zero.1 (by omega))
    simp only [hnone]

/-! ## Names -/

/-- A text without an empty piece between its commas is a list of names. -/
theorem isNameList_iff {text : List Char} {names : List (List Char)} :
    IsNameList text names ↔ text.splitOn ',' = names ∧ [] ∉ names := by
  constructor
  · intro h
    refine ⟨?_, fun hnil => (h.name [] hnil).1 rfl⟩
    rw [h.eq, List.splitOn_intercalate ',' (fun name hname => (h.name name hname).2) h.ne_nil]
  · rintro ⟨rfl, hnil⟩
    refine ⟨List.splitOn_ne_nil ',' text, fun name hname => ⟨?_, ?_⟩,
      (List.intercalate_splitOn ',').symm⟩
    · rintro rfl
      exact hnil hname
    · exact Text.not_mem_of_mem_splitOn hname

theorem IsNameList.text_ne_nil {text : List Char} {names : List (List Char)}
    (h : IsNameList text names) : text ≠ [] := by
  rintro rfl
  obtain ⟨rfl, hnil⟩ := isNameList_iff.1 h
  exact hnil (by simp)

/-- The field of the names is read as what it says. -/
theorem ofNames_eq (n : UInt32) (text : List Char) (path : Path) :
    ofNames n text path =
      if text = [] then if n.toNat = 0 then .ok (.unified path) else .error .emptyName
      else if [] ∈ text.splitOn ',' then .error .emptyName
      else .ok (.hierarchy n ((text.splitOn ',').map String.ofList) path) := by
  have hany : (text.splitOn ',').any List.isEmpty = true ↔ [] ∈ text.splitOn ',' := by
    simp
  rw [ofNames]
  simp only [hany]

/-! ## Entries and faults -/

variable {line : List Char}

/-- A line that spells an entry is read as that entry. -/
theorem Spells.parse {entry : Entry} (h : Spells line entry) : parse line = .ok entry := by
  cases h with
  | unified hline hid =>
    have hzero : word32? _ = some 0 := word32?_eq_some_iff.2 hid
    rw [hline.parse, hzero]
    rfl
  | hierarchy hline hid hnames =>
    obtain ⟨hsplit, hnil⟩ := isNameList_iff.1 hnames
    rw [hline.parse, word32?_eq_some_iff.2 hid]
    simp only [ofNames_eq, if_neg hnames.text_ne_nil, hsplit, if_neg hnil]

/-- A line with a fault is refused for it. -/
theorem Offends.parse {fault : EntryFault} (h : Offends line fault) :
    parse line = .error fault := by
  cases h with
  | fields hcount => exact parse_of_count_lt hcount
  | hierarchyId hline hid => rw [hline.parse, word32?_eq_none_iff.2 hid]
  | @emptyName id text path value hline hid hunified hnames =>
    obtain ⟨n, rfl⟩ := hid.exists_toNat
    rw [hline.parse, word32?_eq_some_iff.2 hid]
    simp only [ofNames_eq]
    by_cases htext : text = []
    · rw [if_pos htext, if_neg fun hn => hunified ⟨htext, hn⟩]
    · have hnil : [] ∈ text.splitOn ',' := by
        by_contra hnil
        exact hnames _ (isNameList_iff.2 ⟨rfl, hnil⟩)
      rw [if_neg htext, if_pos hnil]

theorem Spells.ne_nil {entry : Entry} (h : Spells line entry) : line ≠ [] := by
  rintro rfl
  cases h.parse

/-- Every line spells an entry or has a fault. -/
theorem spells_or_offends (line : List Char) :
    (∃ entry, Spells line entry) ∨ ∃ fault, Offends line fault := by
  by_cases hcount : line.count ':' < 2
  · exact .inr ⟨.fields, .fields hcount⟩
  obtain ⟨id, text, path, hline⟩ := exists_fields (Nat.le_of_not_lt hcount)
  by_cases hid : ∃ value, IsWord32 id value
  · obtain ⟨value, hid⟩ := hid
    by_cases hunified : text = [] ∧ value = 0
    · obtain ⟨rfl, rfl⟩ := hunified
      exact .inl ⟨_, .unified hline hid⟩
    by_cases hnames : ∃ names, IsNameList text names
    · obtain ⟨names, hnames⟩ := hnames
      obtain ⟨n, rfl⟩ := hid.exists_toNat
      exact .inl ⟨_, .hierarchy hline hid hnames⟩
    · exact .inr ⟨_, .emptyName hline hid hunified (not_exists.1 hnames)⟩
  · exact .inr ⟨_, .hierarchyId hline (not_exists.1 hid)⟩

/-- A line is read as the entry that it spells, and only then. -/
theorem parse_eq_ok_iff {entry : Entry} : parse line = .ok entry ↔ Spells line entry :=
  (Text.reading_eq_iff (fun _ => Spells.parse) (fun _ => Offends.parse)
    (spells_or_offends line)).1 entry

/-- A line is refused for the fault that it has, and only then. -/
theorem parse_eq_error_iff {fault : EntryFault} :
    parse line = .error fault ↔ Offends line fault :=
  (Text.reading_eq_iff (fun _ => Spells.parse) (fun _ => Offends.parse)
    (spells_or_offends line)).2 fault

end Entry
end Cgroup
