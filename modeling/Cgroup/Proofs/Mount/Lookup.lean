import Mathlib.Data.List.Induction
import Mathlib.Data.List.Sort
import Cgroup.Mount.Table

/-!
# Looking up mounts

`MountInfo.Offers` says which subsystems the options of a mount info stand for, without the sorted
list that a mount keeps of them. `mem_subsystems_ofInfo` ties the two, and `Table.lookup_ofInfos`
answers all lookups of a table from the mount infos that it was made of: the first one of the right
type that offers a subsystem has it.

The options of a mount info have no order, and the list of a mount does not show one:
`ofOptions_of_perm` sorts them to the same list in any order. By `ofInfo_erase` an option with a
value leaves no trace in it, `name` apart.
-/

namespace Cgroup

variable {info : MountInfo} {subsystem option value : String}

/-! ## What options stand for -/

/-- The options of a mount info stand for a subsystem: it is one of them, has no value and is not
generic, or it is the named hierarchy of the name that they give. -/
def MountInfo.Offers (info : MountInfo) (subsystem : String) : Prop :=
  (info.options[subsystem]? = some none ∧ subsystem ∉ Mount.genericOptions) ∨
    ∃ name, info.options["name"]? = some (some name) ∧ subsystem = named name

instance : Decidable (info.Offers subsystem) :=
  decidable_of_iff
    ((info.options[subsystem]? = some none ∧ subsystem ∉ Mount.genericOptions) ∨
      ∃ name ∈ info.options["name"]?.join, subsystem = named name)
    (by simp [MountInfo.Offers, Option.join_eq_some_iff])

/-- A named hierarchy has the name of no generic option. -/
theorem named_not_mem_genericOptions (name : String) : named name ∉ Mount.genericOptions := by
  have hnamed : "name=".toList <+: (named name).toList := by
    rw [named, String.toList_append]
    exact List.prefix_append _ _
  have hgeneric : ∀ option ∈ Mount.genericOptions, ¬ "name=".toList <+: option.toList := by
    decide
  exact fun hmem => hgeneric _ hmem hnamed

namespace MountInfo

theorem not_offers_generic (h : option ∈ Mount.genericOptions) : ¬ info.Offers option := by
  rintro (⟨-, hother⟩ | ⟨name, -, rfl⟩)
  · exact hother h
  · exact named_not_mem_genericOptions name h

/-- An option with a value has the name of a subsystem only if the named hierarchy has it too. -/
theorem Offers.eq_named (h : info.Offers option)
    (hvalue : info.options[option]? = some (some value)) :
    ∃ name, info.options["name"]? = some (some name) ∧ option = named name := by
  rcases h with ⟨hnone, -⟩ | hnamed
  · simp [hvalue] at hnone
  · exact hnamed

end MountInfo

namespace Mount

theorem ofOption?_eq_some_iff {item : String × Option String} :
    ofOption? item = some subsystem ↔ (item = (subsystem, none) ∧ subsystem ∉ genericOptions) ∨
      ∃ name, item = ("name", some name) ∧ subsystem = named name := by
  obtain ⟨option, value | value⟩ := item
  · rw [ofOption?, Option.ite_none_left_eq_some, Option.some.injEq]
    constructor
    · rintro ⟨hgeneric, rfl⟩
      exact .inl ⟨rfl, hgeneric⟩
    · rintro (⟨⟨⟩, hgeneric⟩ | ⟨_, ⟨⟩, -⟩)
      exact ⟨hgeneric, rfl⟩
  · rw [ofOption?, Option.ite_none_right_eq_some, Option.some.injEq]
    constructor
    · rintro ⟨rfl, rfl⟩
      exact .inr ⟨value, rfl, rfl⟩
    · rintro (⟨⟨⟩, -⟩ | ⟨_, ⟨⟩, rfl⟩)
      exact ⟨rfl, rfl⟩

/-- Options stand for the same subsystems in any order. -/
theorem ofOptions_of_perm {options options' : List (String × Option String)}
    (h : options.Perm options') : ofOptions options = ofOptions options' := by
  have hperm : (ofOptions options).Perm (ofOptions options') :=
    ((List.mergeSort_perm _ _).trans (h.filterMap _)).trans (List.mergeSort_perm _ _).symm
  exact hperm.eq_of_pairwise' (List.pairwise_mergeSort' _ _) (List.pairwise_mergeSort' _ _)

/-- A mount lists what the options of its mount info stand for. -/
theorem mem_subsystems_ofInfo : subsystem ∈ (ofInfo info).subsystems ↔ info.Offers subsystem := by
  simp only [ofInfo, ofOptions, List.mem_mergeSort, List.mem_filterMap, ofOption?_eq_some_iff]
  constructor
  · rintro ⟨item, hitem, ⟨rfl, hgeneric⟩ | ⟨name, rfl, rfl⟩⟩
    · exact .inl ⟨Std.ExtTreeMap.mem_toList_iff_getElem?_eq_some.1 hitem, hgeneric⟩
    · exact .inr ⟨name, Std.ExtTreeMap.mem_toList_iff_getElem?_eq_some.1 hitem, rfl⟩
  · rintro (⟨hoption, hgeneric⟩ | ⟨name, hoption, rfl⟩)
    · exact ⟨_, Std.ExtTreeMap.mem_toList_iff_getElem?_eq_some.2 hoption, .inl ⟨rfl, hgeneric⟩⟩
    · exact ⟨_, Std.ExtTreeMap.mem_toList_iff_getElem?_eq_some.2 hoption, .inr ⟨name, rfl, rfl⟩⟩

theorem hasSubsystem_ofInfo : (ofInfo info).hasSubsystem subsystem ↔ info.Offers subsystem :=
  List.contains_iff_mem.trans mem_subsystems_ofInfo

end Mount

/-! ## Options that stand for nothing -/

namespace MountInfo

/-- A mount info without one of its options. -/
def erase (info : MountInfo) (option : String) : MountInfo :=
  { info with options := info.options.erase option }

/-- The other options stay, each with its value. -/
theorem toList_erase_perm (info : MountInfo) (option : String) :
    (info.erase option).options.toList.Perm
      (info.options.toList.filter fun item => item.1 ≠ option) := by
  have hnodup : ∀ options : Std.ExtTreeMap String (Option String), options.toList.Nodup := by
    intro options
    refine Std.ExtTreeMap.distinct_keys_toList.imp fun {a b} hkeys heq => hkeys ?_
    rw [heq]
    exact Std.ReflCmp.compare_self
  -- no option stands twice on either side, so that only what is listed has to be compared
  refine (List.perm_ext_iff_of_nodup (hnodup _) ((hnodup _).filter _)).2 fun (key, value) => ?_
  rw [List.mem_filter, Std.ExtTreeMap.mem_toList_iff_getElem?_eq_some,
    Std.ExtTreeMap.mem_toList_iff_getElem?_eq_some, erase, Std.ExtTreeMap.getElem?_erase]
  by_cases hkey : option = key
  · simp [hkey]
  · simp [hkey, Ne.symm hkey]

end MountInfo

/-- An option with a value, other than `name`, stands for nothing: the mount is the same without
it. -/
theorem Mount.ofInfo_erase (hvalue : info.options[option]? = some (some value))
    (hname : option ≠ "name") : ofInfo (info.erase option) = ofInfo info := by
  have hnone : ∀ item ∈ info.options.toList,
      (if item.1 ≠ option then ofOption? item else none) = ofOption? item := by
    rintro ⟨key, value'⟩ hitem
    split
    · rfl
    · -- the option that is left out is the one with the value
      rename_i hkey
      obtain rfl : key = option := not_not.1 hkey
      have hget := Std.ExtTreeMap.mem_toList_iff_getElem?_eq_some.1 hitem
      obtain rfl : some value = value' := Option.some.inj (hvalue.symm.trans hget)
      exact (if_neg hname).symm
  have hoptions : ofOptions (info.erase option).options.toList = ofOptions info.options.toList := by
    rw [ofOptions_of_perm (info.toList_erase_perm option), ofOptions, List.filterMap_filter,
      List.filterMap_congr fun item hitem => ?_, ofOptions]
    simpa using hnone item hitem
  rw [ofInfo, hoptions]
  rfl

/-! ## Options that are read from a line -/

namespace MountInfo

/-- An option with a value ends before its first equals sign. -/
theorem equals_not_mem_of_ofOption {item : List Char} (h : ofOption item = (option, some value)) :
    '=' ∉ option.toList := by
  rw [ofOption] at h
  split at h
  · simp at h
  · rename_i name value' hcut
    obtain ⟨rfl, -⟩ := Prod.mk.inj h
    rw [String.toList_ofList]
    exact (Text.cut?_eq_some_iff.1 hcut).2

/-- So does an option that is read with others. -/
theorem equals_not_mem_of_readOptions {text : List Char}
    (h : (readOptions text)[option]? = some (some value)) : '=' ∉ option.toList := by
  rw [readOptions, List.foldl_map] at h
  generalize text.splitOn ',' = items at h
  induction items using List.reverseRecOn with
  | nil => simp at h
  | append_singleton items item ih =>
    -- the last item tells the option, or those before it do
    rw [List.foldl_append, List.foldl_cons, List.foldl_nil, Std.ExtTreeMap.getElem?_insert] at h
    split at h
    · rename_i hkey
      have hitem : ofOption item = (option, some value) :=
        Prod.ext (Std.LawfulEqCmp.eq_of_compare hkey) (Option.some.inj h)
      exact equals_not_mem_of_ofOption hitem
    · exact ih h

/-- No option with a value that is read from a line has the name of a subsystem. -/
theorem not_offers_of_ofLine {line : List UInt8} (h : ofLine line = .ok info)
    (hvalue : info.options[option]? = some (some value)) : ¬ info.Offers option := by
  obtain ⟨text, hoptions⟩ : ∃ text, info.options = readOptions text := by
    unfold ofLine ofFields? at h
    grind
  have hequals : '=' ∉ option.toList := by
    rw [hoptions] at hvalue
    exact equals_not_mem_of_readOptions hvalue
  intro hoffers
  obtain ⟨name, -, rfl⟩ := hoffers.eq_named hvalue
  simp [named] at hequals

end MountInfo

/-! ## Tables of mount infos -/

namespace Table

/-- The first version 1 mount that lists a subsystem is the mount of the subsystem. -/
theorem find?_ofInfos (infos : List MountInfo) (subsystem : String) :
    (ofInfos infos).find? subsystem =
      (infos.find? fun info => info.fsType = Mount.fsType ∧
        (Mount.ofInfo info).hasSubsystem subsystem).map Mount.ofInfo := by
  unfold find? ofInfos
  rw [List.find?_map, List.find?_filter]
  congr 2
  funext info
  simp

/-- A table lists the subsystems that it finds. -/
theorem mem_subsystems_iff {t : Table} :
    subsystem ∈ t.subsystems ↔ (t.find? subsystem).isSome := by
  rw [subsystems, List.mem_flatMap, find?, List.find?_isSome]
  simp only [Mount.hasSubsystem, List.contains_iff_mem]

/-- What a table looks up is told by the mount infos that it was made of. A subsystem has the
mount of the first info of type `cgroup` whose options offer it, with the mount point and the root
of that info, and none exactly if no such info offers it; the table lists the subsystems that it
finds. A mount lists in ascending order what its info offers, in whatever order the options are
visited. A generic option is never listed. An option with a value stands for nothing unless it is
`name`: the mount is the same without it, and its own text is only listed where the named hierarchy
is spelled alike, which no option that is read from a line is (`not_offers_of_ofLine`). -/
theorem lookup_ofInfos (infos : List MountInfo) :
    let t := ofInfos infos
    (∀ subsystem,
      let first? := infos.find? fun info => info.fsType = "cgroup" ∧ info.Offers subsystem
      t.find? subsystem = first?.map Mount.ofInfo ∧
        t.mountPoint? subsystem = first?.map MountInfo.mountPoint ∧
        t.destination? subsystem = first?.map MountInfo.root ∧
        (t.mountPoint? subsystem = none ↔
          ∀ info ∈ infos, info.fsType = "cgroup" → ¬ info.Offers subsystem) ∧
        (t.destination? subsystem = none ↔
          ∀ info ∈ infos, info.fsType = "cgroup" → ¬ info.Offers subsystem) ∧
        (subsystem ∈ t.subsystems ↔ (t.find? subsystem).isSome)) ∧
    t.mounts = (infos.filter (·.fsType = "cgroup")).map Mount.ofInfo ∧
    ∀ info : MountInfo,
      let m := Mount.ofInfo info
      m.subsystems.Pairwise (· ≤ ·) ∧
        (∀ subsystem, subsystem ∈ m.subsystems ↔ info.Offers subsystem) ∧
        (∀ options, options.Perm info.options.toList → Mount.ofOptions options = m.subsystems) ∧
        (∀ option ∈ Mount.genericOptions, option ∉ m.subsystems) ∧
        ∀ option value, info.options[option]? = some (some value) → option ≠ "name" →
          Mount.ofInfo (info.erase option) = m ∧
            (option ∈ m.subsystems →
              ∃ name, info.options["name"]? = some (some name) ∧ option = named name) := by
  intro t
  refine ⟨fun subsystem => ?_, rfl, fun info => ?_⟩
  · intro first?
    have hfind : t.find? subsystem = first?.map Mount.ofInfo := by
      simp only [t, first?, find?_ofInfos, Mount.hasSubsystem_ofInfo, Mount.fsType]
    have hpoint : t.mountPoint? subsystem = first?.map MountInfo.mountPoint := by
      rw [mountPoint?, hfind, Option.map_map]
      rfl
    have hroot : t.destination? subsystem = first?.map MountInfo.root := by
      rw [destination?, hfind, Option.map_map]
      rfl
    have hnone : first? = none ↔
        ∀ info ∈ infos, info.fsType = "cgroup" → ¬ info.Offers subsystem := by
      simp only [first?, List.find?_eq_none, decide_eq_true_eq, not_and]
    refine ⟨hfind, hpoint, hroot, ?_, ?_, mem_subsystems_iff⟩
    · rw [hpoint, Option.map_eq_none_iff, hnone]
    · rw [hroot, Option.map_eq_none_iff, hnone]
  · intro m
    have hmem : ∀ name, name ∈ m.subsystems ↔ info.Offers name :=
      fun name => Mount.mem_subsystems_ofInfo
    refine ⟨List.pairwise_mergeSort' _ _, hmem, fun options => Mount.ofOptions_of_perm, ?_, ?_⟩
    · intro option hgeneric
      rw [hmem]
      exact MountInfo.not_offers_generic hgeneric
    · intro option value hvalue hname
      refine ⟨Mount.ofInfo_erase hvalue hname, fun hlisted => ?_⟩
      exact ((hmem option).1 hlisted).eq_named hvalue

example :
    let systemd : MountInfo :=
      ⟨"cgroup", .ofString "/sys/fs/cgroup/systemd", .root,
        .ofList [("rw", none), ("none", none), ("name", some "systemd"), ("release", some "name=v")]⟩
    (ofInfos [systemd]).subsystems = ["name=systemd", "none"] := by cbv

end Table
end Cgroup
