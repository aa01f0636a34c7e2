import Cgroup.Proofs.Record.Variants

/-!
# Records written as text

A record can be written in many ways: names that share a path may stand on one line or on several,
the lines in any order and with any ids, with blanks around them, blank lines between them and line
ends of either kind. `ListedBy` is the choice of the entries, `Entry.Written` that of the text, and
`read_of_written` reads the record back from all of them. The names and paths have to fit on a line
(`Writable`): a colon or a comma would cut a name in two and a blank at the end of a path would be
trimmed, but a path may hold colons and commas, and both may hold blanks.
-/

namespace Cgroup

/-! ## The choice of a text -/

/-- Blanks within a line. -/
def Text.IsPadding (s : List Char) : Prop :=
  ∀ c ∈ s, isBlank c ∧ c ≠ '\n'

instance (s : List Char) : Decidable (Text.IsPadding s) :=
  List.decidableBAll (fun c => Text.isBlank c ∧ c ≠ '\n') s

/-- A path that fits at the end of a line. -/
structure Path.Writable (path : Path) : Prop where
  newline_free : '\n' ∉ path.chars
  last : ∀ c ∈ path.chars.getLast?, Text.isBlank c = false

instance (path : Path) : Decidable path.Writable :=
  decidable_of_iff ('\n' ∉ path.chars ∧ path.chars.getLast?.all (!Text.isBlank ·))
    ⟨fun h => ⟨h.1, by simpa [Option.all_eq_true] using h.2⟩,
      fun h => ⟨h.newline_free, by simpa [Option.all_eq_true] using h.last⟩⟩

namespace Entry

/-- A name that fits between commas and colons. -/
structure IsName (name : String) : Prop where
  ne_empty : name ≠ ""
  comma_free : ',' ∉ name.toList
  colon_free : ':' ∉ name.toList
  newline_free : '\n' ∉ name.toList

instance (name : String) : Decidable (IsName name) :=
  decidable_of_iff
    (name ≠ "" ∧ ',' ∉ name.toList ∧ ':' ∉ name.toList ∧ '\n' ∉ name.toList)
    ⟨fun h => ⟨h.1, h.2.1, h.2.2.1, h.2.2.2⟩, fun h => ⟨h.1, h.2, h.3, h.4⟩⟩

/-- An entry with names, if it needs some, and with a path that fit on a line. -/
inductive Writable : Entry → Prop where
  | unified {path : Path} (hpath : path.Writable) : Writable (.unified path)
  | hierarchy (id : UInt32) {names : List String} {path : Path} (hne : names ≠ [])
      (hnames : ∀ name ∈ names, IsName name) (hpath : path.Writable) :
      Writable (.hierarchy id names path)

/-- What may be written on a line: padding, or an entry with padding around it. -/
inductive OnLine : Option Entry → List Char → Prop where
  | blank (line : List Char) (hline : Text.IsPadding line) : OnLine none line
  | entry (front : List Char) (entry : Entry) (back : List Char) (hfront : Text.IsPadding front)
      (hback : Text.IsPadding back) : OnLine (some entry) (front ++ entry.render ++ back)

/-- A text in which entries are written, line by line. Each line ends at a newline, with a carriage
return in front of it or without; the last one needs no end if it is not empty. -/
inductive Written : List Entry → List Char → Prop where
  | nil : Written [] []
  | unended {said : Option Entry} {line : List Char} (hne : line ≠ []) (hline : OnLine said line) :
      Written said.toList line
  | ended {said : Option Entry} {line lineEnd rest : List Char} {entries : List Entry}
      (hline : OnLine said line) (hend : lineEnd = ['\n'] ∨ lineEnd = ['\r', '\n'])
      (hrest : Written entries rest) : Written (said.toList ++ entries) (line ++ (lineEnd ++ rest))

end Entry

namespace Record

/-- A record whose names and paths fit on lines. -/
structure Writable (r : Record) : Prop where
  name : ∀ name path, r.get? name = some path → Entry.IsName name
  path : ∀ name path, r.get? name = some path → path.Writable
  unified : ∀ path, r.unified = some path → path.Writable

/-- Entries that list a record: its names in groups, in any order, each with the path of all its
names, and its version 2 path. -/
structure ListedBy (r : Record) (entries : List Entry) : Prop where
  get? : ∀ name path, r.get? name = some path ↔
    ∃ id names, .hierarchy id names path ∈ entries ∧ name ∈ names
  unified : ∀ path, r.unified = some path ↔ .unified path ∈ entries
  names_ne_nil : ∀ id names path, .hierarchy id names path ∈ entries → names ≠ []

variable {r : Record} {entries : List Entry}

theorem Writable.entry (hr : r.Writable) (hlisted : r.ListedBy entries) {entry : Entry}
    (hentry : entry ∈ entries) : entry.Writable := by
  cases entry with
  | unified path => exact .unified (hr.unified path ((hlisted.unified path).2 hentry))
  | hierarchy id names path =>
    have hne := hlisted.names_ne_nil id names path hentry
    have hget : ∀ name ∈ names, r.get? name = some path := fun name hname =>
      (hlisted.get? name path).2 ⟨id, names, hentry, hname⟩
    obtain ⟨first, hfirst⟩ := List.exists_mem_of_ne_nil names hne
    exact .hierarchy id hne (fun name hname => hr.name name path (hget name hname))
      (hr.path first path (hget first hfirst))

/-- Every record is listed, by a line for each name for example. -/
theorem exists_listedBy (r : Record) : ∃ entries, r.ListedBy entries := by
  refine ⟨r.toList.map (fun listed => .hierarchy 0 [listed.1] listed.2) ++
    r.unified.toList.map .unified, fun name path => ?_, fun path => ?_, ?_⟩
  · simp [get?, toList]
  · simp
  · rintro id names path hentry rfl
    simp at hentry

/-! ## The record of the entries -/

/-- If a list holds one element at most, the last one is this. -/
theorem getLast?_eq_of_forall {α : Type} {l : List α} {o : Option α}
    (h : ∀ a, o = some a ↔ a ∈ l) : l.getLast? = o := by
  cases hlast : l.getLast? with
  | none =>
    rw [List.getLast?_eq_none_iff] at hlast
    cases o with
    | none => rfl
    | some a => exact absurd ((h a).1 rfl) (by simp [hlast])
  | some a => exact ((h a).2 (List.mem_of_getLast? hlast)).symm

/-- A record is made of the entries that list it. -/
theorem ListedBy.ofEntries_eq (h : r.ListedBy entries) : ofEntries entries = r := by
  have hsubsystems : (ofEntries entries).subsystems = r.subsystems := by
    refine subsystems_eq_of_get? fun name => ?_
    rw [get?_ofEntries]
    refine getLast?_eq_of_forall fun path => ?_
    simp only [h.get?, List.mem_filterMap, Entry.pathFor?_eq_some_iff]
    constructor
    · rintro ⟨id, names, hentry, hname⟩
      exact ⟨_, hentry, id, names, rfl, hname⟩
    · rintro ⟨_, hentry, id, names, rfl, hname⟩
      exact ⟨id, names, hentry, hname⟩
  have hunified : (ofEntries entries).unified = r.unified := by
    rw [unified_ofEntries]
    refine getLast?_eq_of_forall fun path => ?_
    simp only [h.unified, List.mem_filterMap, Entry.unified?_eq_some_iff, exists_eq_right]
  exact congrArg₂ Record.mk hsubsystems hunified

end Record

/-! ## The lines of the text -/

namespace Text.IsPadding

variable {s : List Char}

theorem isBlank (h : IsPadding s) : ∀ c ∈ s, Text.isBlank c :=
  fun c hc => (h c hc).1

theorem newline_free (h : IsPadding s) : '\n' ∉ s :=
  fun hmem => (h '\n' hmem).2 rfl

end Text.IsPadding

namespace Entry

variable {entry : Entry} {said : Option Entry} {entries : List Entry} {line text : List Char}

theorem Writable.newline_free (h : entry.Writable) : '\n' ∉ entry.render := by
  cases h with
  | unified hpath => simp [render, hpath.newline_free]
  | @hierarchy id names path hne hnames hpath =>
    have hid : '\n' ∉ Numeral.digits id.toNat :=
      (Numeral.isWord32_digits id).not_mem (by decide) (by decide)
    have hlist : '\n' ∉ [','].intercalate (names.map String.toList) := by
      refine Text.not_mem_intercalate (by decide) (List.forall_mem_map.2 fun name hname => ?_)
      exact (hnames name hname).newline_free
    simp [render, hid, hlist, hpath.newline_free]

/-- An entry that fits on a line is what the line says, whatever padding is around it. -/
theorem Writable.says_encode (h : entry.Writable) {front back : List Char}
    (hfront : Text.IsPadding front) (hback : Text.IsPadding back) :
    Record.Says (Text.encode (front ++ entry.render ++ back)) (some entry) := by
  cases h with
  | unified hpath => exact Record.says_unified hfront.isBlank hpath.last hback.isBlank
  | @hierarchy id names path hne hnames hpath =>
    have hid := Numeral.isWord32_digits id
    let listing : Record.Listing :=
      { front, back
        id := Numeral.digits id.toNat
        names := names.map String.toList
        path := path.chars
        front_blank := hfront.isBlank
        back_blank := hback.isBlank
        id_valid := ⟨_, hid⟩
        names_ne_nil := by simpa using hne
        name_valid := List.forall_mem_map.2 fun name hname =>
          ⟨by simpa using (hnames name hname).ne_empty, (hnames name hname).comma_free,
            (hnames name hname).colon_free⟩
        path_end := hpath.last }
    have hline : listing.line =
        Text.encode (front ++ (Entry.hierarchy id names path).render ++ back) := by
      simp [Record.Listing.line, Record.Listing.text, listing, render]
    have hsaid := listing.says_line hid
    rw [hline] at hsaid
    simpa [listing] using hsaid

theorem OnLine.says_encode (h : OnLine said line) (hentries : ∀ entry ∈ said, entry.Writable) :
    Record.Says (Text.encode line) said := by
  cases h with
  | blank line hline =>
    exact .blank rfl ⟨⟨line, [], hline.isBlank, List.forall_mem_nil _, by simp⟩, by simp, by simp⟩
  | entry front entry back hfront hback => exact (hentries entry rfl).says_encode hfront hback

theorem OnLine.newline_free (h : OnLine said line) (hentries : ∀ entry ∈ said, entry.Writable) :
    10 ∉ Text.encode line := by
  intro hmem
  have hnewline := Text.newline_mem_of_mem_encode hmem
  cases h with
  | blank line hline => exact hline.newline_free hnewline
  | entry front entry back hfront hback =>
    simp only [List.mem_append, hfront.newline_free, (hentries entry rfl).newline_free,
      hback.newline_free, or_self] at hnewline

/-- The lines of which the text was put together say what was written, and nothing else. -/
theorem Written.exists_joins (h : Written entries text)
    (hentries : ∀ entry ∈ entries, entry.Writable) :
    ∃ lines, Text.Joins lines (Text.encode text) ∧ (∀ line ∈ lines, ∃ said, Record.Says line said) ∧
      lines.filterMap Record.entryOf? = entries := by
  induction h with
  | nil => exact ⟨[], .nil, List.forall_mem_nil _, rfl⟩
  | @unended said line hne hline =>
    have hsaid : ∀ entry ∈ said, entry.Writable := fun entry hentry =>
      hentries entry (Option.mem_toList.2 hentry)
    have htells := hline.says_encode hsaid
    have hne' : Text.encode line ≠ [] := fun hnil => hne (Text.encode_injective hnil)
    refine ⟨[Text.encode line], .unended hne' (hline.newline_free hsaid), ?_, ?_⟩
    · simpa using ⟨said, htells⟩
    · cases said <;> simp [htells.entryOf?]
  | @ended said line lineEnd rest entries hline hend hrest ih =>
    obtain ⟨hsaid, hentries⟩ := List.forall_mem_append.1 hentries
    obtain ⟨lines, hjoins, htold, hlines⟩ := ih hentries
    have hsaid : ∀ entry ∈ said, entry.Writable := fun entry hentry =>
      hsaid entry (Option.mem_toList.2 hentry)
    have htells := hline.says_encode hsaid
    have hfree := hline.newline_free hsaid
    refine ⟨Text.encode line :: lines, ?_, List.forall_mem_cons.2 ⟨⟨said, htells⟩, htold⟩, ?_⟩
    · have hnewline : Text.encode ['\n'] = [10] := by decide
      have hreturn : Text.encode ['\r', '\n'] = [13, 10] := by decide
      rw [Text.encode_append, Text.encode_append]
      rcases hend with rfl | rfl
      · rw [hnewline]
        exact .newline hfree hjoins
      · rw [hreturn]
        exact .returnNewline hfree hjoins
    · cases said <;> simp [htells.entryOf?, hlines]

end Entry

namespace Record

/-- A record is read from every text in which it is written: its names in groups of one path, the
lines in any order and with any ids, with padding around them, blank lines and both kinds of line
ends. -/
theorem read_of_written {r : Record} {entries : List Entry} {text : List Char} (hr : r.Writable)
    (hlisted : r.ListedBy entries) (hwritten : Entry.Written entries text) (source : Path) :
    read source (Text.encode text) = .ok r := by
  obtain ⟨lines, hjoins, htold, hlines⟩ :=
    hwritten.exists_joins fun _ hentry => hr.entry hlisted hentry
  rw [read_of_said hjoins htold, hlines, hlisted.ofEntries_eq]

/-- Two names on one line, a path with a colon, a comma and a blank, the largest id and an empty
path, with blanks around a line, a blank line and line ends of all kinds. -/
theorem read_of_written_padded :
    let entries := [.hierarchy 4294967295 ["cpu", "name=a b"] (.ofString "/a:b, c"),
      .unified (.ofString "/ü"), .hierarchy 0 ["io"] (.ofString "")]
    let text := " 4294967295:cpu,name=a b:/a:b, c\t\r\n \r\n0::/ü\n0:io:".toList
    (ofEntries entries).Writable ∧ (ofEntries entries).ListedBy entries ∧
      Entry.Written entries text ∧
      read .empty (Text.encode text) = .ok (ofEntries entries) := by
  intro entries text
  have hget : ∀ name path, (ofEntries entries).get? name = some path ↔
      name ∈ ["cpu", "name=a b"] ∧ path = .ofString "/a:b, c" ∨
        name ∈ ["io"] ∧ path = .ofString "" := by
    intro name path
    have hempty : empty.get? name = none := Std.ExtTreeMap.getElem?_empty
    rw [ofEntries, List.foldl_cons, List.foldl_cons, List.foldl_cons, List.foldl_nil,
      get?_add_hierarchy, get?_add_unified, get?_add_hierarchy, hempty]
    grind
  have hunified : (ofEntries entries).unified = some (.ofString "/ü") := rfl
  have hlisted : (ofEntries entries).ListedBy entries := by
    refine ⟨fun name path => ?_, fun path => ?_, ?_⟩
    · simp only [hget, entries]
      grind
    · simp [hunified, entries, eq_comm]
    · simp only [entries]
      grind
  have hwritable : (ofEntries entries).Writable := by
    refine ⟨?_, ?_, ?_⟩
    · have hnames : ∀ name ∈ ["cpu", "name=a b", "io"], Entry.IsName name := by decide
      intro name path hpath
      rw [hget] at hpath
      exact hnames name (by grind)
    · intro name path hpath
      rcases (hget name path).1 hpath with ⟨-, rfl⟩ | ⟨-, rfl⟩ <;> decide
    · intro path hpath
      obtain rfl := Option.some.inj hpath
      decide
  have hwritten : Entry.Written entries text :=
    .ended (.entry [' '] entries[0] ['\t'] (by decide) (by decide)) (.inr rfl)
      (.ended (.blank [' '] (by decide)) (.inr rfl)
        (.ended (.entry [] entries[1] [] (by decide) (by decide)) (.inl rfl)
          (.unended (List.cons_ne_nil _ _) (.entry [] entries[2] [] (by decide) (by decide)))))
  exact ⟨hwritable, hlisted, hwritten, read_of_written hwritable hlisted hwritten .empty⟩

end Record
end Cgroup
