import Cgroup.Proofs.Record.Grammar
import Cgroup.Record.Reading

/-!
# What a record says

A record is read line by line, and each line says one of three things: nothing, an entry, or that
it is no entry. `Says` and `Offends` tell these apart without reading the line. From them
`read_eq_ok_iff` and `read_eq_error_iff` say which streams are records and what is reported of the
others, `get?_ofEntries` and `unified_ofEntries` that of all lines for a name the last one counts,
and `read_outcome` puts this together.
-/

namespace Cgroup

/-! ## What an entry says of a name -/

namespace Entry

/-- The path that an entry has for a subsystem. -/
def pathFor? (name : String) : Entry → Option Path
  | .unified _ => none
  | .hierarchy _ names path => if name ∈ names then some path else none

/-- The path that an entry has in the version 2 hierarchy. -/
def unified? : Entry → Option Path
  | .unified path => some path
  | .hierarchy .. => none

theorem pathFor?_eq_some_iff {name : String} {entry : Entry} {path : Path} :
    entry.pathFor? name = some path ↔
      ∃ id names, entry = .hierarchy id names path ∧ name ∈ names := by
  cases entry with
  | unified path' => simp [pathFor?]
  | hierarchy id names path' =>
    rw [pathFor?, Option.ite_none_right_eq_some]
    constructor
    · rintro ⟨hmem, hpath⟩
      obtain rfl := Option.some.inj hpath
      exact ⟨id, names, rfl, hmem⟩
    · rintro ⟨id', names', heq, hmem⟩
      cases heq
      exact ⟨hmem, rfl⟩

theorem unified?_eq_some_iff {entry : Entry} {path : Path} :
    entry.unified? = some path ↔ entry = .unified path := by
  cases entry <;> simp [unified?]

end Entry

namespace Record

/-! ## The last entry counts -/

/-- One more entry decides the path of a name if it lists the name. -/
theorem get?_add (r : Record) (entry : Entry) (name : String) :
    (r.add entry).get? name = (entry.pathFor? name).or (r.get? name) := by
  cases entry with
  | unified path => rfl
  | hierarchy id names path =>
    rw [get?_add_hierarchy, Entry.pathFor?]
    split <;> simp

theorem unified_add (r : Record) (entry : Entry) :
    (r.add entry).unified = entry.unified?.or r.unified := by
  cases entry <;> rfl

theorem ofEntries_concat (entries : List Entry) (entry : Entry) :
    ofEntries (entries ++ [entry]) = (ofEntries entries).add entry :=
  List.foldl_concat ..

/-- The path of a subsystem is the last one that the entries have for it. -/
theorem get?_ofEntries (entries : List Entry) (name : String) :
    (ofEntries entries).get? name = (entries.filterMap (Entry.pathFor? name)).getLast? := by
  induction entries using List.reverseRecOn with
  | nil => exact Std.ExtTreeMap.getElem?_empty
  | append_singleton entries entry ih =>
    rw [ofEntries_concat, get?_add, ih, List.filterMap_append, List.getLast?_append]
    cases hpath : entry.pathFor? name <;> simp [hpath]

/-- The path in the version 2 hierarchy is the last one that the entries have for it. -/
theorem unified_ofEntries (entries : List Entry) :
    (ofEntries entries).unified = (entries.filterMap Entry.unified?).getLast? := by
  induction entries using List.reverseRecOn with
  | nil => rfl
  | append_singleton entries entry ih =>
    rw [ofEntries_concat, unified_add, ih, List.filterMap_append, List.getLast?_append]
    cases hpath : entry.unified? <;> simp [hpath]

/-! ## One line -/

/-- What a line says: nothing if it is blank, else the entry that it spells. Blanks around the entry
do not count. -/
inductive Says (line : List UInt8) : Option Entry → Prop where
  | blank {text : List Char} (hline : Text.encode text = line) (htrim : Text.Trims text []) :
      Says line none
  | entry {text trimmed : List Char} {entry : Entry} (hline : Text.encode text = line)
      (htrim : Text.Trims text trimmed) (hentry : Entry.Spells trimmed entry) :
      Says line (some entry)

/-- What is wrong with a line that says nothing of the kind: it is not UTF-8, or it is not blank and
has a fault. -/
inductive Offends (source : Path) (line : List UInt8) : RecordError → Prop where
  | notUtf8 (hline : ∀ text, Text.encode text ≠ line) :
      Offends source line (.cannotRead source .notUtf8)
  | malformed {text trimmed : List Char} {fault : EntryFault} (hline : Text.encode text = line)
      (htrim : Text.Trims text trimmed) (hblank : trimmed ≠ [])
      (hfault : Entry.Offends trimmed fault) :
      Offends source line (.malformed fault trimmed)

variable {source : Path} {line : List UInt8}

theorem Says.entryOnLine {said : Option Entry} (h : Says line said) (source : Path) :
    entryOnLine source line = .ok said := by
  cases h with
  | blank hline htrim =>
    rw [Record.entryOnLine, Text.decode?_eq_some_iff.2 hline]
    exact if_pos (Text.trim_eq_iff.2 htrim)
  | entry hline htrim hentry =>
    rw [Record.entryOnLine, Text.decode?_eq_some_iff.2 hline]
    simp only [Text.trim_eq_iff.2 htrim, if_neg hentry.ne_nil, hentry.parse]

theorem Offends.entryOnLine {error : RecordError} (h : Offends source line error) :
    entryOnLine source line = .error error := by
  cases h with
  | notUtf8 hline => rw [Record.entryOnLine, Text.decode?_eq_none_iff.2 hline]
  | malformed hline htrim hblank hfault =>
    rw [Record.entryOnLine, Text.decode?_eq_some_iff.2 hline]
    simp only [Text.trim_eq_iff.2 htrim, if_neg hblank, hfault.parse]

/-- Every line says something or offends. -/
theorem says_or_offends (source : Path) (line : List UInt8) :
    (∃ said, Says line said) ∨ ∃ error, Offends source line error := by
  by_cases htext : ∃ text, Text.encode text = line
  · obtain ⟨text, hline⟩ := htext
    have htrim := Text.trims_trim text
    by_cases hblank : Text.trim text = []
    · exact .inl ⟨none, .blank hline (hblank ▸ htrim)⟩
    · rcases Entry.spells_or_offends (Text.trim text) with ⟨entry, hentry⟩ | ⟨fault, hfault⟩
      · exact .inl ⟨some entry, .entry hline htrim hentry⟩
      · exact .inr ⟨_, .malformed hline htrim hblank hfault⟩
  · exact .inr ⟨_, .notUtf8 (not_exists.1 htext)⟩

theorem entryOnLine_eq_ok_iff {said : Option Entry} :
    entryOnLine source line = .ok said ↔ Says line said :=
  (Text.reading_eq_iff (fun _ h => h.entryOnLine source) (fun _ => Offends.entryOnLine)
    (says_or_offends source line)).1 said

theorem entryOnLine_eq_error_iff {error : RecordError} :
    entryOnLine source line = .error error ↔ Offends source line error :=
  (Text.reading_eq_iff (fun _ h => h.entryOnLine source) (fun _ => Offends.entryOnLine)
    (says_or_offends source line)).2 error

/-- The entry on a line, if there is one. -/
def entryOf? (line : List UInt8) : Option Entry :=
  (entryOnLine .empty line).toOption.join

theorem Says.entryOf? {said : Option Entry} (h : Says line said) : entryOf? line = said := by
  rw [Record.entryOf?, h.entryOnLine .empty]
  rfl

theorem entryOf?_eq_some_iff {entry : Entry} :
    entryOf? line = some entry ↔ Says line (some entry) := by
  refine ⟨fun hentry => ?_, Says.entryOf?⟩
  rcases says_or_offends .empty line with ⟨said, h⟩ | ⟨error, h⟩
  · obtain rfl := hentry.symm.trans h.entryOf?
    exact h
  · rw [entryOf?, h.entryOnLine] at hentry
    cases hentry

/-! ## All lines -/

variable {bytes : List UInt8}

/-- Whether lines can be read, and what they say then, does not depend on where they come from. -/
theorem map_entryOnLine_eq_iff {ls : List (List UInt8)} {said : List (Option Entry)} :
    ls.map (entryOnLine source) = said.map .ok ↔
      (∀ line ∈ ls, ∃ s, Says line s) ∧ ls.map entryOf? = said := by
  induction ls generalizing said with
  | nil => cases said <;> simp
  | cons line ls ih =>
    cases said with
    | nil => simp
    | cons s said =>
      rw [List.map_cons, List.map_cons, List.cons.injEq, ih, entryOnLine_eq_ok_iff,
        List.forall_mem_cons, List.map_cons, List.cons.injEq]
      constructor
      · rintro ⟨hs, hls, hsaid⟩
        exact ⟨⟨⟨s, hs⟩, hls⟩, hs.entryOf?, hsaid⟩
      · rintro ⟨⟨⟨s', hs'⟩, hls⟩, hs, hsaid⟩
        obtain rfl := hs'.entryOf?.symm.trans hs
        exact ⟨hs', hls, hsaid⟩

theorem read_eq_map (source : Path) (bytes : List UInt8) :
    read source bytes = ((Text.lines bytes).mapM (entryOnLine source)).map
      fun said => ofEntries (said.filterMap id) := by
  unfold read entries
  cases (Text.lines bytes).mapM (entryOnLine source) <;> rfl

/-- A stream is a record if every line of it says something. The record is made of the entries. -/
theorem read_eq_ok_iff {r : Record} :
    read source bytes = .ok r ↔
      (∀ line ∈ Text.lines bytes, ∃ said, Says line said) ∧
        ofEntries ((Text.lines bytes).filterMap entryOf?) = r := by
  have hread : read source bytes = .ok r ↔ ∃ said,
      (Text.lines bytes).mapM (entryOnLine source) = .ok said ∧
        ofEntries (said.filterMap id) = r := by
    rw [read_eq_map]
    cases (Text.lines bytes).mapM (entryOnLine source) <;> simp [Except.map]
  simp only [hread, Text.mapM_eq_ok_iff, map_entryOnLine_eq_iff]
  constructor
  · rintro ⟨_, ⟨hsaid, rfl⟩, rfl⟩
    exact ⟨hsaid, by rw [List.filterMap_map]; rfl⟩
  · rintro ⟨hsaid, rfl⟩
    exact ⟨_, ⟨hsaid, rfl⟩, by rw [List.filterMap_map]; rfl⟩

/-- A stream is refused for its first line that offends. -/
theorem read_eq_error_iff {error : RecordError} :
    read source bytes = .error error ↔
      ∃ before line after, Text.lines bytes = before ++ line :: after ∧
        (∀ earlier ∈ before, ∃ said, Says earlier said) ∧ Offends source line error := by
  have hread : read source bytes = .error error ↔
      (Text.lines bytes).mapM (entryOnLine source) = .error error := by
    rw [read_eq_map]
    cases (Text.lines bytes).mapM (entryOnLine source) <;> simp [Except.map]
  simp only [hread, Text.mapM_eq_error_iff, entryOnLine_eq_ok_iff, entryOnLine_eq_error_iff]

/-! ## The last line counts -/

/-- Of the lines that tell a path, the last one tells this path. -/
def LastTells (tells : List UInt8 → Path → Prop) (lines : List (List UInt8)) (path : Path) :
    Prop :=
  ∃ before line after, lines = before ++ line :: after ∧ tells line path ∧
    ∀ later ∈ after, ∀ other, ¬ tells later other

section

variable {tells : List UInt8 → Path → Prop} {f : List UInt8 → Option Path}
  {lines : List (List UInt8)}

theorem getLast?_filterMap_eq_some_iff (hf : ∀ line path, f line = some path ↔ tells line path)
    {path : Path} :
    (lines.filterMap f).getLast? = some path ↔ LastTells tells lines path := by
  have hnone : ∀ line, f line = none ↔ ∀ other, ¬ tells line other := by
    intro line
    simp only [Option.eq_none_iff_forall_ne_some, ne_eq, hf]
  simp only [List.getLast?_filterMap, List.findSome?_eq_some_iff, List.reverse_eq_iff,
    List.reverse_append, List.reverse_cons, List.append_assoc, List.singleton_append, hf, hnone]
  constructor
  · rintro ⟨after, line, before, hlines, hline, hafter⟩
    exact ⟨before.reverse, line, after.reverse, hlines, hline,
      fun later hlater => hafter later (List.mem_reverse.1 hlater)⟩
  · rintro ⟨before, line, after, hlines, hline, hafter⟩
    exact ⟨after.reverse, line, before.reverse, by simpa using hlines, hline,
      fun later hlater => hafter later (List.mem_reverse.1 hlater)⟩

theorem getLast?_filterMap_eq_none_iff
    (hf : ∀ line path, f line = some path ↔ tells line path) :
    (lines.filterMap f).getLast? = none ↔ ∀ line ∈ lines, ∀ path, ¬ tells line path := by
  rw [List.getLast?_eq_none_iff, List.filterMap_eq_nil_iff]
  simp only [Option.eq_none_iff_forall_ne_some, ne_eq, hf]

end

/-- A line lists a name with a path. -/
def Lists (name : String) (line : List UInt8) (path : Path) : Prop :=
  ∃ id names, Says line (some (.hierarchy id names path)) ∧ name ∈ names

theorem pathFor?_entryOf?_eq_some_iff (name : String) (line : List UInt8) (path : Path) :
    (entryOf? line).bind (Entry.pathFor? name) = some path ↔ Lists name line path := by
  simp only [Option.bind_eq_some_iff, entryOf?_eq_some_iff, Entry.pathFor?_eq_some_iff]
  constructor
  · rintro ⟨_, hline, id, names, rfl, hmem⟩
    exact ⟨id, names, hline, hmem⟩
  · rintro ⟨id, names, hline, hmem⟩
    exact ⟨_, hline, id, names, rfl, hmem⟩

theorem unified?_entryOf?_eq_some_iff (line : List UInt8) (path : Path) :
    (entryOf? line).bind Entry.unified? = some path ↔ Says line (some (.unified path)) := by
  simp only [Option.bind_eq_some_iff, entryOf?_eq_some_iff, Entry.unified?_eq_some_iff]
  constructor
  · rintro ⟨_, hline, rfl⟩
    exact hline
  · intro hline
    exact ⟨_, hline, rfl⟩

/-- Which streams are records, what is reported of the others, and what a record holds. The lines
of a stream are those of which it is made. It is a record if each of them is blank or spells an
entry, and otherwise fails as its first line does that is neither. A record has a path for a name
if a line lists the name, and it is the path on the last such line; likewise for the version 2
hierarchy. -/
theorem read_outcome (source : Path) (bytes : List UInt8) :
    Text.LinesOf bytes (Text.lines bytes) ∧
    ((∃ r, read source bytes = .ok r) ↔ ∀ line ∈ Text.lines bytes, ∃ said, Says line said) ∧
    (∀ error, read source bytes = .error error ↔
      ∃ before line after, Text.lines bytes = before ++ line :: after ∧
        (∀ earlier ∈ before, ∃ said, Says earlier said) ∧ Offends source line error) ∧
    ∀ r, read source bytes = .ok r →
      (∀ name path, r.get? name = some path ↔
        LastTells (Lists name) (Text.lines bytes) path) ∧
      (∀ name, r.get? name = none ↔
        ∀ line ∈ Text.lines bytes, ∀ path, ¬ Lists name line path) ∧
      (∀ path, r.unified = some path ↔
        LastTells (fun line path => Says line (some (.unified path))) (Text.lines bytes) path) ∧
      (r.unified = none ↔
        ∀ line ∈ Text.lines bytes, ∀ path, ¬ Says line (some (.unified path))) := by
  refine ⟨Text.linesOf_lines bytes, ?_, fun error => read_eq_error_iff, fun r hr => ?_⟩
  · simp only [read_eq_ok_iff, exists_and_left, exists_eq', and_true]
  · obtain ⟨-, rfl⟩ := read_eq_ok_iff.1 hr
    simp only [get?_ofEntries, unified_ofEntries, List.filterMap_filterMap]
    exact ⟨fun name path => getLast?_filterMap_eq_some_iff (pathFor?_entryOf?_eq_some_iff name),
      fun name => getLast?_filterMap_eq_none_iff (pathFor?_entryOf?_eq_some_iff name),
      fun path => getLast?_filterMap_eq_some_iff unified?_entryOf?_eq_some_iff,
      getLast?_filterMap_eq_none_iff unified?_entryOf?_eq_some_iff⟩

example :
    ofBytes (Text.encode "4:memory:/a\r\n +2:cpu,,io:/\n".toList ++ [0xff]) =
      .error (.malformed .emptyName "+2:cpu,,io:/".toList) := by cbv

end Record
end Cgroup
