import Cgroup.Proofs.Mount.Lookup
import Cgroup.Proofs.Text.Stream

/-!
# What a line of mountinfo text describes

`MountInfo.Fields` is a line as it was meant, field by field. `ofLine_eq_ok_iff` says that a line is
read exactly if it has such fields, and `getElem?_readOptions_eq_some_iff` that of the options in
one of them the last one for a name counts.

An option without a value is the name of a controller, and nothing asks whether that name is empty:
`Table.empty_mem_subsystems_iff` tells when a table lists a subsystem without a name.
-/

namespace Cgroup

namespace MountInfo

/-! ## Fields -/

/-- The fields of a line of `mountinfo` text. -/
structure Fields where
  /-- The number of the mount. -/
  id : List Char
  /-- The number of the mount that it is mounted on. -/
  parent : List Char
  /-- The device. -/
  device : List Char
  /-- The path inside the file system that is visible at the mount point. -/
  root : List Char
  /-- Where the file system is mounted. -/
  mountPoint : List Char
  /-- The options of the mount. -/
  flags : List Char
  /-- The optional fields, of which a lone hyphen marks the end. -/
  optional : List (List Char)
  /-- The type of the file system. -/
  fsType : List Char
  /-- What is mounted. -/
  source : List Char
  /-- The options of the file system. -/
  options : List Char
  /-- What follows on the line and is not read. -/
  rest : List (List Char)

namespace Fields

/-- The fields in front of the root. -/
def front (f : Fields) : List (List Char) :=
  [f.id, f.parent, f.device]

/-- The fields behind the root. -/
def back (f : Fields) : List (List Char) :=
  f.mountPoint :: f.flags :: (f.optional ++ ['-'] :: f.fsType :: f.source :: f.options :: f.rest)

/-- All fields in their order. -/
def words (f : Fields) : List (List Char) :=
  f.front ++ f.root :: f.back

/-- The line with these fields, with single spaces between them. -/
def text (f : Fields) : List Char :=
  [' '].intercalate f.words

/-- The mount that the fields describe. -/
def info (f : Fields) : MountInfo :=
  ⟨String.ofList f.fsType, ⟨f.mountPoint⟩, ⟨f.root⟩, readOptions f.options⟩

/-- What is asked of the fields of a line. -/
structure Valid (f : Fields) : Prop where
  /-- The number of the mount is one of 32 bits. -/
  id : (Numeral.int32? f.id).isSome
  /-- So is the number of its parent. -/
  parent : (Numeral.int32? f.parent).isSome
  /-- No optional field is taken for the mark behind them, and each is valid. -/
  optional : ∀ field ∈ f.optional, field ≠ ['-'] ∧ isOptionalField field = true

/-- A line has these fields, one for each of its words. -/
def Describes (f : Fields) (line : List UInt8) : Prop :=
  f.Valid ∧ ∃ text, Text.encode text = line ∧ Text.words text = f.words

end Fields

variable {info : MountInfo} {infos : List MountInfo} {f : Fields}

theorem Fields.fsType_info_iff {type : String} :
    f.info.fsType = type ↔ f.fsType = type.toList := by
  rw [info, ← String.toList_inj, String.toList_ofList]

theorem ofFields?_words (h : f.Valid) : ofFields? f.words = some f.info := by
  have hcut : Text.cut? ['-'] (f.optional ++ ['-'] :: f.fsType :: f.source :: f.options :: f.rest) =
      some (f.optional, f.fsType :: f.source :: f.options :: f.rest) :=
    Text.cut?_eq_some_iff.2 ⟨rfl, fun hmem => (h.optional _ hmem).1 rfl⟩
  have hall : f.optional.all isOptionalField = true :=
    List.all_eq_true.2 fun field hfield => (h.optional field hfield).2
  simp only [Fields.words, Fields.front, Fields.back, List.cons_append, List.nil_append, ofFields?,
    hcut, h.id, h.parent, hall, Bool.and_self, if_true]
  rfl

/-- Words are the fields of a mount exactly if they are valid fields. -/
theorem ofFields?_eq_some_iff {words : List (List Char)} :
    ofFields? words = some info ↔ ∃ f : Fields, f.Valid ∧ f.words = words ∧ f.info = info := by
  constructor
  · intro h
    unfold ofFields? at h
    split at h
    · rename_i id parent device root mountPoint flags rest
      split at h
      · rename_i optional fsType source options rest' hcut
        rw [Option.ite_none_right_eq_some, Option.some.injEq] at h
        obtain ⟨hvalid, rfl⟩ := h
        simp only [Bool.and_eq_true, List.all_eq_true] at hvalid
        obtain ⟨⟨hid, hparent⟩, hall⟩ := hvalid
        obtain ⟨rfl, hhyphen⟩ := Text.cut?_eq_some_iff.1 hcut
        refine ⟨⟨id, parent, device, root, mountPoint, flags, optional, fsType, source, options,
          rest'⟩, ⟨hid, hparent, fun field hfield => ⟨?_, hall field hfield⟩⟩, rfl, rfl⟩
        rintro rfl
        exact hhyphen hfield
      · simp at h
    · simp at h
  · rintro ⟨f, hvalid, rfl, rfl⟩
    exact ofFields?_words hvalid

/-- A line is read exactly if it has fields, and as what they describe. -/
theorem ofLine_eq_ok_iff {line : List UInt8} :
    ofLine line = .ok info ↔ ∃ f : Fields, f.Describes line ∧ f.info = info := by
  unfold ofLine
  constructor
  · intro h
    split at h
    · simp at h
    · rename_i text htext
      split at h
      · simp at h
      · rename_i info' hfields
        obtain rfl := Except.ok.inj h
        obtain ⟨f, hvalid, hwords, hinfo⟩ := ofFields?_eq_some_iff.1 hfields
        exact ⟨f, ⟨hvalid, text, Text.decode?_eq_some_iff.1 htext, hwords.symm⟩, hinfo⟩
  · rintro ⟨f, ⟨hvalid, text, rfl, hwords⟩, rfl⟩
    simp only [Text.decode?_encode, hwords, ofFields?_words hvalid]

/-- Valid fields that are words are those of their line. -/
theorem Fields.describes_text (h : f.Valid) (hwords : ∀ w ∈ f.words, Text.IsWord w) :
    f.Describes (Text.encode f.text) :=
  ⟨h, f.text, rfl, Text.words_intercalate_of_isWord hwords⟩

/-- A text without a newline is read as one line. -/
theorem read_encode {text : List Char} (hne : text ≠ []) (hline : '\n' ∉ text) :
    read (Text.encode text) = (ofLine (Text.encode text)).map fun info => [info] := by
  have hbytes : Text.encode text ≠ [] := fun hnil => hne (Text.encode_injective hnil)
  rw [read, Text.lines_of_not_mem fun hmem => hline (Text.newline_mem_of_mem_encode hmem),
    if_neg hbytes, List.mapM_cons]
  cases ofLine (Text.encode text) <;> rfl

/-- A line whose words are no fields makes the text malformed. -/
theorem read_encode_of_not_fields {text : List Char} (hne : text ≠ []) (hline : '\n' ∉ text)
    (hfields : ofFields? (Text.words text) = none) :
    read (Text.encode text) = .error .malformed := by
  rw [read_encode hne hline, ofLine, Text.decode?_encode]
  simp only [hfields]
  rfl

/-- Fields without a newline are on one line. -/
theorem Fields.read_encode_text (h : ∀ w ∈ f.words, '\n' ∉ w) :
    read (Text.encode f.text) = (ofLine (Text.encode f.text)).map fun info => [info] := by
  refine read_encode ?_ (Text.not_mem_intercalate (by decide) h)
  simp [text, words, front]

/-- The line of valid fields that are words is read as what the fields describe. -/
theorem Fields.read_text (h : f.Valid) (hwords : ∀ w ∈ f.words, Text.IsWord w) :
    read (Text.encode f.text) = .ok [f.info] := by
  have hnewline : ∀ w ∈ f.words, '\n' ∉ w := fun w hw hmem =>
    absurd ((hwords w hw).2 _ hmem) (by decide)
  rw [read_encode_text hnewline, ofLine_eq_ok_iff.2 ⟨f, f.describes_text h hwords, rfl⟩]
  rfl

/-- The mounts that a text describes are those of its lines. -/
theorem mem_of_read {bytes : List UInt8} (h : read bytes = .ok infos) :
    info ∈ infos ↔ ∃ line ∈ Text.lines bytes, ofLine line = .ok info := by
  have hmap := Text.mapM_eq_ok_iff.1 h
  have hmem : Except.ok info ∈ infos.map (Except.ok (ε := MountInfoError)) ↔ info ∈ infos := by
    simp
  rw [← hmem, ← hmap, List.mem_map]

/-! ## Options -/

/-- An option is looked for from the end of the items. -/
theorem getElem?_readOptions (text : List Char) (option : String) :
    (readOptions text)[option]? =
      ((text.splitOn ',').reverse.find? fun item => (ofOption item).1 = option).map
        fun item => (ofOption item).2 := by
  rw [readOptions, List.foldl_map]
  induction text.splitOn ',' using List.reverseRecOn with
  | nil => simp
  | append_singleton items last ih =>
    rw [List.foldl_append, List.foldl_cons, List.foldl_nil, Std.ExtTreeMap.getElem?_insert, ih,
      List.reverse_append, List.reverse_singleton, List.singleton_append, List.find?_cons]
    by_cases hlast : (ofOption last).1 = option <;> simp [hlast]

/-- The value of an option is given by the last item for it. -/
theorem getElem?_readOptions_eq_some_iff {text : List Char} {option : String}
    {value : Option String} :
    (readOptions text)[option]? = some value ↔
      ∃ before item after, text.splitOn ',' = before ++ item :: after ∧
        ofOption item = (option, value) ∧ ∀ later ∈ after, (ofOption later).1 ≠ option := by
  rw [getElem?_readOptions, Option.map_eq_some_iff]
  simp only [List.find?_eq_some_iff_append, decide_eq_true_eq, Bool.not_eq_true',
    decide_eq_false_iff_not]
  constructor
  · rintro ⟨item, ⟨hname, after, before, hitems, hafter⟩, hvalue⟩
    rw [List.reverse_eq_append_iff, List.reverse_cons, List.append_assoc,
      List.singleton_append] at hitems
    exact ⟨before.reverse, item, after.reverse, hitems, Prod.ext hname hvalue,
      fun later hlater => hafter later (List.mem_reverse.1 hlater)⟩
  · rintro ⟨before, item, after, hitems, hitem, hafter⟩
    refine ⟨item, ⟨congrArg Prod.fst hitem, after.reverse, before.reverse, by simp [hitems],
      fun later hlater => hafter later (List.mem_reverse.1 hlater)⟩, congrArg Prod.snd hitem⟩

/-- An item gives the option without a name if there is nothing in front of its equals sign, or
nothing at all. -/
theorem ofOption_fst_eq_empty_iff {item : List Char} :
    (ofOption item).1 = "" ↔ item = [] ∨ item.head? = some '=' := by
  cases item with
  | nil => simp [ofOption, Text.cut?]
  | cons c item =>
    by_cases hc : c = '='
    · simp [ofOption, Text.cut?, hc]
    · cases hcut : Text.cut? '=' item <;> simp [ofOption, Text.cut?, hc, hcut]

/-- Only an empty item gives the option without a name and without a value. -/
theorem ofOption_eq_empty_none_iff {item : List Char} : ofOption item = ("", none) ↔ item = [] := by
  constructor
  · intro h
    rcases ofOption_fst_eq_empty_iff.1 (congrArg Prod.fst h) with hnil | hhead
    · exact hnil
    · obtain ⟨rest, rfl⟩ := List.head?_eq_some_iff.1 hhead
      simp [ofOption, Text.cut?] at h
  · rintro rfl
    rfl

/-- Options list the empty option without a value exactly if one item is empty and nothing behind
it takes that back. -/
theorem getElem?_readOptions_empty_iff {text : List Char} :
    (readOptions text)[""]? = some none ↔
      ∃ before after, text.splitOn ',' = before ++ [] :: after ∧
        ∀ later ∈ after, later ≠ [] ∧ later.head? ≠ some '=' := by
  simp only [getElem?_readOptions_eq_some_iff, ofOption_eq_empty_none_iff, ne_eq,
    ofOption_fst_eq_empty_iff, not_or]
  constructor
  · rintro ⟨before, -, after, hitems, rfl, hafter⟩
    exact ⟨before, after, hitems, hafter⟩
  · rintro ⟨before, after, hitems, hafter⟩
    exact ⟨before, [], after, hitems, rfl, hafter⟩

/-- The empty option stands for a subsystem like any other that is not generic. -/
theorem offers_empty_iff : info.Offers "" ↔ info.options[""]? = some none := by
  constructor
  · rintro (⟨hoption, -⟩ | ⟨name, -, hname⟩)
    · exact hoption
    · simp [named, String.ext_iff] at hname
  · intro hoption
    exact .inl ⟨hoption, by decide⟩

end MountInfo

/-! ## Subsystems without a name -/

namespace Table

variable {infos : List MountInfo}

/-- A table lists what its version 1 mount infos offer. -/
theorem mem_subsystems_ofInfos_iff {subsystem : String} :
    subsystem ∈ (ofInfos infos).subsystems ↔
      ∃ info ∈ infos, info.fsType = Mount.fsType ∧ info.Offers subsystem := by
  simp [subsystems, ofInfos, Mount.mem_subsystems_ofInfo, and_assoc]

theorem find?_ofInfos_empty (infos : List MountInfo) :
    (ofInfos infos).find? "" = (infos.find? fun info =>
      info.fsType = "cgroup" ∧ info.options[""]? = some none).map Mount.ofInfo := by
  rw [find?_ofInfos]
  simp only [Mount.hasSubsystem_ofInfo, MountInfo.offers_empty_iff, Mount.fsType]

/-- When a table lists a subsystem without a name. A version 1 mount then has the empty option
without a value, and the first such mount is the one that is found under the empty name. In a table
that is read from text, some line of it has nothing between two commas of the options, or at their
beginning or end, and no item behind that place is empty or begins with an equals sign. A table that
is made of other mounts has only subsystems with names. -/
theorem empty_mem_subsystems_iff (infos : List MountInfo) :
    let t := ofInfos infos
    ("" ∈ t.subsystems ↔
      ∃ info ∈ infos, info.fsType = "cgroup" ∧ info.options[""]? = some none) ∧
    t.find? "" = (infos.find? fun info =>
      info.fsType = "cgroup" ∧ info.options[""]? = some none).map Mount.ofInfo ∧
    (t.find? "" = none ↔ ∀ subsystem ∈ t.subsystems, subsystem ≠ "") ∧
    ∀ bytes, MountInfo.read bytes = .ok infos →
      ("" ∈ t.subsystems ↔ ∃ line ∈ Text.lines bytes, ∃ f : MountInfo.Fields,
        f.Describes line ∧ f.fsType = "cgroup".toList ∧
          ∃ before after, f.options.splitOn ',' = before ++ [] :: after ∧
            ∀ later ∈ after, later ≠ [] ∧ later.head? ≠ some '=') := by
  intro t
  have hlisted : "" ∈ t.subsystems ↔
      ∃ info ∈ infos, info.fsType = "cgroup" ∧ info.options[""]? = some none := by
    simp only [t, mem_subsystems_ofInfos_iff, MountInfo.offers_empty_iff, Mount.fsType]
  refine ⟨hlisted, find?_ofInfos_empty infos, ?_, fun bytes hread => ?_⟩
  · rw [← Option.not_isSome_iff_eq_none, ← mem_subsystems_iff]
    exact ⟨fun h subsystem hmem heq => h (heq ▸ hmem), fun h hmem => h "" hmem rfl⟩
  · rw [hlisted]
    constructor
    · rintro ⟨info, hinfo, htype, hoption⟩
      obtain ⟨line, hline, hread⟩ := (MountInfo.mem_of_read hread).1 hinfo
      obtain ⟨f, hf, rfl⟩ := MountInfo.ofLine_eq_ok_iff.1 hread
      exact ⟨line, hline, f, hf, MountInfo.Fields.fsType_info_iff.1 htype,
        MountInfo.getElem?_readOptions_empty_iff.1 hoption⟩
    · rintro ⟨line, hline, f, hf, htype, hitems⟩
      refine ⟨f.info, (MountInfo.mem_of_read hread).2 ⟨line, hline, ?_⟩, ?_, ?_⟩
      · exact MountInfo.ofLine_eq_ok_iff.2 ⟨f, hf, rfl⟩
      · exact MountInfo.Fields.fsType_info_iff.2 htype
      · exact MountInfo.getElem?_readOptions_empty_iff.2 hitems

/-- A comma too many among the options is a subsystem of its own, without a name. -/
theorem empty_mem_subsystems_of_two_commas :
    ∃ infos, MountInfo.read (Text.encode
        "30 25 0:26 / /sys/fs/cgroup/memory rw - cgroup cgroup rw,,memory".toList) = .ok infos ∧
      (ofInfos infos).subsystems = ["", "memory"] ∧ (ofInfos infos).find? "" ≠ none := by
  let f : MountInfo.Fields :=
    ⟨"30".toList, "25".toList, "0:26".toList, "/".toList, "/sys/fs/cgroup/memory".toList,
      "rw".toList, [], "cgroup".toList, "cgroup".toList, "rw,,memory".toList, []⟩
  have hread : MountInfo.read (Text.encode f.text) = .ok [f.info] :=
    f.read_text ⟨by decide, by decide, by simp [f]⟩ (by decide)
  have hlisted : (ofInfos [f.info]).subsystems = ["", "memory"] := by
    have htype : f.info.fsType = Mount.fsType := by decide
    have hoptions : f.info.options.toList.filterMap Mount.ofOption? = ["", "memory"] := by
      decide +kernel
    have hsorted : ["", "memory"].mergeSort = ["", "memory"] :=
      List.mergeSort_of_pairwise (by decide)
    simp [subsystems, ofInfos, htype, Mount.ofInfo, Mount.ofOptions, hoptions, hsorted]
  refine ⟨[f.info], hread, hlisted, ?_⟩
  rw [← Option.isSome_iff_ne_none, ← mem_subsystems_iff, hlisted]
  exact List.mem_cons_self

end Table
end Cgroup
