import Mathlib.Data.List.Forall2
import Cgroup.Proofs.Record.Reading
import Cgroup.Proofs.Text.Stream

/-!
# Records written in two ways

Two streams may be put together from different lines and still record the same paths. This file has
the two ways in which that happens on a host:

* `read_of_inserts`: lines for the version 2 hierarchy may stand anywhere among the others, or not
  at all;
* `read_of_reordered`: the lines may stand in any order, with any ids and with their names in any
  order, if no name stands on two of them.

Both come from `read_of_joins`, by which a record is read from the lines that were joined and not
from the bytes, and from one fact about lists each: what is put in among the elements of a list
changes nothing that leaves it out (`Inserts.filterMap_eq`), and neither does the order if there is
one element at most that is not left out (`filterMap_eq_of_perm`). A line that lists names is put
together from its parts, a `Listing`, so that it is plain what may be done to it (`Relisted`).
-/

namespace Cgroup

/-! ## Lists -/

section

variable {α β ε : Type} {p : α → Prop} {l l' : List α}

/-- A list, and a longer one with elements of some kind put in anywhere. -/
inductive Inserts (p : α → Prop) : List α → List α → Prop where
  | nil : Inserts p [] []
  /-- An element of the list. -/
  | keep {l l' : List α} (a : α) (h : Inserts p l l') : Inserts p (a :: l) (a :: l')
  /-- An element that is put in. -/
  | insert {l l' : List α} {a : α} (ha : p a) (h : Inserts p l l') : Inserts p l (a :: l')

/-- What leaves out all that is put in is the same for both lists. -/
theorem Inserts.filterMap_eq {f : α → Option β} (h : Inserts p l l') (hf : ∀ a, p a → f a = none) :
    l'.filterMap f = l.filterMap f := by
  induction h with
  | nil => rfl
  | keep a h ih => rw [List.filterMap_cons, List.filterMap_cons, ih]
  | insert ha h ih => rw [List.filterMap_cons_none (hf _ ha), ih]

/-- A list with elements put in that are read as something fails where it fails without them, and
otherwise what they are read as is put in among the rest. -/
theorem Inserts.mapM {f : α → Except ε β} {q : β → Prop} (h : Inserts p l l')
    (hf : ∀ a, p a → ∃ b, f a = .ok b ∧ q b) :
    (∃ error, l.mapM f = .error error ∧ l'.mapM f = .error error) ∨
      ∃ bs bs', l.mapM f = .ok bs ∧ l'.mapM f = .ok bs' ∧ Inserts q bs bs' := by
  have hcons : ∀ {a b} {as : List α} {bs}, f a = .ok b → as.mapM f = .ok bs →
      (a :: as).mapM f = .ok (b :: bs) := by
    intro a b as bs ha has
    rw [Text.mapM_eq_ok_iff] at has ⊢
    rw [List.map_cons, List.map_cons, ha, has]
  induction h with
  | nil => exact .inr ⟨[], [], rfl, rfl, .nil⟩
  | keep a h ih =>
    -- it fails in both lists or in neither, and it fails first
    cases ha : f a with
    | error error =>
      exact .inl ⟨error, Text.mapM_cons_eq_error_iff.2 (.inl ha),
        Text.mapM_cons_eq_error_iff.2 (.inl ha)⟩
    | ok b =>
      rcases ih with ⟨error, hl, hl'⟩ | ⟨bs, bs', hl, hl', hbs⟩
      · exact .inl ⟨error, Text.mapM_cons_eq_error_iff.2 (.inr ⟨⟨b, ha⟩, hl⟩),
          Text.mapM_cons_eq_error_iff.2 (.inr ⟨⟨b, ha⟩, hl'⟩)⟩
      · exact .inr ⟨b :: bs, b :: bs', hcons ha hl, hcons ha hl', .keep b hbs⟩
  | insert ha h ih =>
    -- it cannot fail, so that the first failure is one of the rest
    obtain ⟨b, hb, hq⟩ := hf _ ha
    rcases ih with ⟨error, hl, hl'⟩ | ⟨bs, bs', hl, hl', hbs⟩
    · exact .inl ⟨error, hl, Text.mapM_cons_eq_error_iff.2 (.inr ⟨⟨b, hb⟩, hl'⟩)⟩
    · exact .inr ⟨bs, b :: bs', hl, hcons hb hl', .insert hq hbs⟩

/-- What leaves out all elements but one at most does not depend on their order. -/
theorem filterMap_eq_of_perm {f : α → Option β} (h : l.Perm l')
    (hl : l.Pairwise fun a b => ∀ x y, f a = some x → f b ≠ some y) :
    l.filterMap f = l'.filterMap f := by
  have hperm : (l.filterMap f).Perm (l'.filterMap f) := h.filterMap f
  -- lists of one element at most are sorted by any relation, an empty one included
  have hnone : (l.filterMap f).Pairwise fun _ _ => False := by
    rw [List.pairwise_filterMap]
    exact hl.imp fun hab x hx y hy => hab x y hx hy
  have hnone' : (l'.filterMap f).Pairwise fun _ _ => False := (hperm.pairwise_iff id).1 hnone
  exact hperm.eq_of_pairwise (fun _ _ _ _ hfalse => hfalse.elim) hnone hnone'

/-- What is the same for the elements of two lists, one by one, is the same for the lists. -/
theorem filterMap_eq_of_forall₂ {R : α → α → Prop} {f : α → Option β} (h : List.Forall₂ R l l')
    (hf : ∀ a b, R a b → f a = f b) : l.filterMap f = l'.filterMap f := by
  induction h with
  | nil => rfl
  | cons hab h ih => rw [List.filterMap_cons, List.filterMap_cons, hf _ _ hab, ih]

end

namespace Record

variable {source : Path} {ls ls' : List (List UInt8)} {bytes bytes' : List UInt8}

/-! ## Reading joined lines -/

/-- A carriage return at the end of a line is one of the blanks around its entry. -/
theorem entryOnLine_append_return (source : Path) (line : List UInt8) :
    entryOnLine source (line ++ [13]) = entryOnLine source line := by
  rw [entryOnLine, entryOnLine, Text.decode?_append_return]
  cases Text.decode? line with
  | none => rfl
  | some text =>
    have htrim : Text.trim (text ++ ['\r']) = Text.trim text :=
      Text.trim_append_blank text (by decide)
    simp only [Option.map_some, htrim]

/-- A record is read from the lines of which the stream was put together. -/
theorem read_of_joins (h : Text.Joins ls bytes) (source : Path) :
    read source bytes =
      (ls.mapM (entryOnLine source)).map fun said => ofEntries (said.filterMap id) := by
  have hlines : (Text.lines bytes).mapM (entryOnLine source) = ls.mapM (entryOnLine source) := by
    have hmap := Text.map_lines_of_joins (entryOnLine_append_return source) h
    have hid := congrArg (List.mapM id) hmap
    rwa [List.mapM_map, List.mapM_map] at hid
  rw [read_eq_map, hlines]

/-- Records with the same path for each name have the same paths. -/
theorem subsystems_eq_of_get? {r r' : Record} (h : ∀ name, r.get? name = r'.get? name) :
    r.subsystems = r'.subsystems :=
  Std.ExtTreeMap.ext_getElem? h

/-! ## Lines for the version 2 hierarchy -/

/-- A line for the version 2 hierarchy, with any path. -/
def UnifiedLine (line : List UInt8) : Prop :=
  ∃ path, line = Text.encode ("0::".toList ++ path)

/-- A line for the version 2 hierarchy says so, whatever blanks are around it. -/
theorem says_unified {front path back : List Char} (hfront : ∀ c ∈ front, Text.isBlank c)
    (hend : ∀ c ∈ path.getLast?, Text.isBlank c = false) (hback : ∀ c ∈ back, Text.isBlank c) :
    Says (Text.encode (front ++ ("0::".toList ++ path) ++ back)) (some (.unified ⟨path⟩)) := by
  have hfields : Entry.Fields ("0::".toList ++ path) ['0'] [] path := ⟨rfl, by decide, by simp⟩
  have hid : Numeral.IsWord32 ['0'] 0 :=
    ⟨['0'], .inl rfl, by simp, by simp, by decide, by decide⟩
  exact .entry rfl (hfields.trims hid hend hfront hback) (.unified hfields hid)

/-- Blanks at the end of such a line are no part of its path. -/
theorem UnifiedLine.exists_said {line : List UInt8} (h : UnifiedLine line) :
    ∃ path, Says line (some (.unified path)) := by
  obtain ⟨path, rfl⟩ := h
  obtain ⟨back, hback, hpath⟩ := Text.exists_trimEnd_append path
  have hend : ∀ c ∈ (Text.trimEnd path).getLast?, Text.isBlank c = false :=
    fun _ => Text.isBlank_of_mem_getLast?_trimEnd
  have htells := says_unified (List.forall_mem_nil _) hend hback
  rw [List.nil_append, List.append_assoc, ← hpath] at htells
  exact ⟨_, htells⟩

/-- Whether a stream is a record, what is wrong with it otherwise, and which paths it has does not
depend on the lines for the version 2 hierarchy. -/
theorem read_of_inserts (hjoins : Text.Joins ls bytes) (hjoins' : Text.Joins ls' bytes')
    (hlines : Inserts UnifiedLine ls ls') (source : Path) :
    (∃ error, read source bytes = .error error ∧ read source bytes' = .error error) ∨
      ∃ r r', read source bytes = .ok r ∧ read source bytes' = .ok r' ∧
        r'.subsystems = r.subsystems := by
  have htold : ∀ line, UnifiedLine line → ∃ said, entryOnLine source line = .ok said ∧
      ∃ path, said = some (.unified path) := by
    intro line hline
    obtain ⟨path, hpath⟩ := hline.exists_said
    exact ⟨_, hpath.entryOnLine source, path, rfl⟩
  rw [read_of_joins hjoins, read_of_joins hjoins']
  rcases hlines.mapM htold with ⟨error, hls, hls'⟩ | ⟨said, said', hls, hls', hsaid⟩
  · rw [hls, hls']
    exact .inl ⟨error, rfl, rfl⟩
  · rw [hls, hls']
    refine .inr ⟨_, _, rfl, rfl, subsystems_eq_of_get? fun name => ?_⟩
    -- no line that was put in tells a path of a subsystem
    have hpaths : said'.filterMap (Option.bind · (Entry.pathFor? name)) =
        said.filterMap (Option.bind · (Entry.pathFor? name)) := by
      refine hsaid.filterMap_eq ?_
      rintro _ ⟨path, rfl⟩
      rfl
    rw [get?_ofEntries, get?_ofEntries, List.filterMap_filterMap, List.filterMap_filterMap]
    exact congrArg List.getLast? hpaths

/-! ## Lines that list names -/

/-- A line that lists names, by its parts: an id, the names and a path, with blanks around them. -/
structure Listing where
  front : List Char
  id : List Char
  names : List (List Char)
  path : List Char
  back : List Char
  front_blank : ∀ c ∈ front, Text.isBlank c
  id_valid : ∃ value, Numeral.IsWord32 id value
  names_ne_nil : names ≠ []
  name_valid : ∀ name ∈ names, name ≠ [] ∧ ',' ∉ name ∧ ':' ∉ name
  path_end : ∀ c ∈ path.getLast?, Text.isBlank c = false
  back_blank : ∀ c ∈ back, Text.isBlank c

namespace Listing

/-- The text between the blanks. -/
def text (l : Listing) : List Char :=
  l.id ++ ':' :: ([','].intercalate l.names ++ ':' :: l.path)

/-- The line that is put together from the parts. -/
def line (l : Listing) : List UInt8 :=
  Text.encode (l.front ++ l.text ++ l.back)

theorem fields (l : Listing) : Entry.Fields l.text l.id ([','].intercalate l.names) l.path where
  eq := rfl
  id_free := by
    obtain ⟨value, hid⟩ := l.id_valid
    exact hid.not_mem (by decide) (by decide)
  names_free := Text.not_mem_intercalate (by decide) fun name hname => (l.name_valid name hname).2.2

/-- The line says what its parts are. -/
theorem says_line (l : Listing) {id : UInt32} (hid : Numeral.IsWord32 l.id id.toNat) :
    Says l.line (some (.hierarchy id (l.names.map String.ofList) ⟨l.path⟩)) := by
  have hnames : Entry.IsNameList ([','].intercalate l.names) l.names :=
    ⟨l.names_ne_nil, fun name hname => ⟨(l.name_valid name hname).1, (l.name_valid name hname).2.1⟩,
      rfl⟩
  have htrims := l.fields.trims hid l.path_end l.front_blank l.back_blank
  exact .entry rfl htrims (.hierarchy l.fields hid hnames)

theorem exists_said (l : Listing) :
    ∃ id, Says l.line (some (.hierarchy id (l.names.map String.ofList) ⟨l.path⟩)) := by
  obtain ⟨value, hid⟩ := l.id_valid
  obtain ⟨id, rfl⟩ := hid.exists_toNat
  exact ⟨id, l.says_line hid⟩

end Listing

/-! ## Lines in another order -/

/-- What may become of a line: it stays, or a line that lists names gets another id and its names in
another order. -/
inductive Relisted (line : List UInt8) : List UInt8 → Prop where
  | keep {said : Option Entry} (h : Says line said) : Relisted line line
  | relist {id : UInt32} {names : List String} {path : Path} {l : Listing}
      (h : Says line (some (.hierarchy id names path)))
      (hnames : names.Perm (l.names.map String.ofList)) (hpath : path = ⟨l.path⟩) :
      Relisted line l.line

variable {line line' : List UInt8}

theorem Relisted.exists_said (h : Relisted line line') :
    (∃ said, Says line said) ∧ ∃ said, Says line' said := by
  cases h with
  | keep h => exact ⟨⟨_, h⟩, ⟨_, h⟩⟩
  | @relist id names path l h hnames hpath =>
    obtain ⟨id', hl⟩ := l.exists_said
    exact ⟨⟨_, h⟩, ⟨_, hl⟩⟩

/-- The path that a line tells of a name, if the line lists it. -/
def pathOn? (name : String) (line : List UInt8) : Option Path :=
  (entryOf? line).bind (Entry.pathFor? name)

theorem pathOn?_eq_some_iff {name : String} {path : Path} :
    pathOn? name line = some path ↔ Lists name line path :=
  pathFor?_entryOf?_eq_some_iff name line path

theorem get?_ofEntries_lines (ls : List (List UInt8)) (name : String) :
    (ofEntries (ls.filterMap entryOf?)).get? name = (ls.filterMap (pathOn? name)).getLast? := by
  rw [get?_ofEntries, List.filterMap_filterMap]
  rfl

/-- A line that is put together from its parts tells the path of its names and of no other. -/
theorem Listing.pathOn?_line (l : Listing) (name : String) :
    pathOn? name l.line = if name ∈ l.names.map String.ofList then some ⟨l.path⟩ else none := by
  obtain ⟨id, hl⟩ := l.exists_said
  rw [pathOn?, hl.entryOf?]
  rfl

/-- Neither the id nor the order of the names decides which path a line tells of a name. -/
theorem Relisted.pathOn? (h : Relisted line line') (name : String) :
    pathOn? name line = pathOn? name line' := by
  cases h with
  | keep h => rfl
  | @relist id names path l h hnames hpath =>
    rw [l.pathOn?_line, Record.pathOn?, h.entryOf?]
    simp only [Option.bind_some, Entry.pathFor?, hnames.mem_iff, hpath]

theorem exists_said_of_relisted (h : List.Forall₂ Relisted ls ls') :
    (∀ line ∈ ls, ∃ said, Says line said) ∧ ∀ line ∈ ls', ∃ said, Says line said := by
  induction h with
  | nil => exact ⟨List.forall_mem_nil _, List.forall_mem_nil _⟩
  | cons hline h ih =>
    obtain ⟨hsaid, hsaid'⟩ := hline.exists_said
    exact ⟨List.forall_mem_cons.2 ⟨hsaid, ih.1⟩, List.forall_mem_cons.2 ⟨hsaid', ih.2⟩⟩

/-- If every line says something, a record is made of what they say. -/
theorem read_of_said (hjoins : Text.Joins ls bytes) (htold : ∀ line ∈ ls, ∃ said, Says line said)
    (source : Path) : read source bytes = .ok (ofEntries (ls.filterMap entryOf?)) := by
  have hls : ls.mapM (entryOnLine source) = .ok (ls.map entryOf?) :=
    Text.mapM_eq_ok_iff.2 (map_entryOnLine_eq_iff.2 ⟨htold, rfl⟩)
  rw [read_of_joins hjoins, hls]
  show Except.ok (ofEntries ((ls.map entryOf?).filterMap id)) = _
  rw [List.filterMap_map]
  rfl

/-- The order of lines does not count if no name stands on two of them, and neither do the ids and
the order of the names on a line. -/
theorem read_of_reordered {mid : List (List UInt8)} (hjoins : Text.Joins ls bytes)
    (hjoins' : Text.Joins ls' bytes') (hperm : ls.Perm mid)
    (hrelisted : List.Forall₂ Relisted mid ls')
    (hdistinct : ls.Pairwise fun line line' => ∀ name path path', Lists name line path →
      ¬ Lists name line' path') (source : Path) :
    ∃ r r', read source bytes = .ok r ∧ read source bytes' = .ok r' ∧
      r'.subsystems = r.subsystems := by
  obtain ⟨hmid, htold'⟩ := exists_said_of_relisted hrelisted
  have htold : ∀ line ∈ ls, ∃ said, Says line said := fun line hline =>
    hmid line (hperm.mem_iff.1 hline)
  refine ⟨_, _, read_of_said hjoins htold source, read_of_said hjoins' htold' source,
    subsystems_eq_of_get? fun name => ?_⟩
  -- one line at most tells a path of the name, so that it is the last one in any order
  have hone : ls.Pairwise fun line line' => ∀ path path', pathOn? name line = some path →
      pathOn? name line' ≠ some path' := by
    refine hdistinct.imp fun {line line'} hlines path path' hpath hpath' => ?_
    exact hlines name path path' (pathOn?_eq_some_iff.1 hpath) (pathOn?_eq_some_iff.1 hpath')
  have hls : ls.filterMap (pathOn? name) = mid.filterMap (pathOn? name) :=
    filterMap_eq_of_perm hperm hone
  have hls' : mid.filterMap (pathOn? name) = ls'.filterMap (pathOn? name) :=
    filterMap_eq_of_forall₂ hrelisted fun _ _ h => h.pathOn? name
  rw [get?_ofEntries_lines, get?_ofEntries_lines, hls, hls']

end Record
end Cgroup
