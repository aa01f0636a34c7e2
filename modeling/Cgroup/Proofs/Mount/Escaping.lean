import Cgroup.Proofs.Mount.Reading
import Cgroup.Proofs.Path.Below
import Cgroup.Proofs.Text.Numeral

/-!
# Escaped characters in a mountinfo line

Blanks end the fields of a line, so that the kernel writes the space, the tab, the newline and the
backslash of a path as octal numbers. `escaped` is that spelling. It goes name by name
(`segments_escaped`), adds three characters for each one that it escapes (`length_escaped`) and
leaves no blank behind but those that it does not know (`mem_escaped_iff_of_isBlank`).

Nothing undoes it when a line is read. `Fields.Shows` is a line with the root of a hierarchy so
spelled: it is read with that spelling if no blank is left in it (`Fields.Shows.read_text`), and in
any case with the first word of it (`Fields.Shows.exists_of_read`).
-/

namespace Cgroup

namespace MountInfo

/-! ## The spelling of a character -/

/-- The characters of a path that are written as octal numbers. -/
def isEscaped (c : Char) : Bool :=
  c ∈ [' ', '\t', '\n', '\\']

/-- What is written for a character of a path. -/
def escape : Char → List Char
  | ' ' => "\\040".toList
  | '\t' => "\\011".toList
  | '\n' => "\\012".toList
  | '\\' => "\\134".toList
  | c => [c]

/-- What is written for a path. -/
def escaped (s : List Char) : List Char :=
  s.flatMap escape

variable {c d : Char} {s t : List Char}

theorem escape_of_not_isEscaped (h : isEscaped c = false) : escape c = [c] := by
  unfold escape
  split <;> simp_all [isEscaped]

/-- An escaped character is written as a backslash and three digits. -/
theorem exists_escape_eq (h : isEscaped c = true) :
    ∃ digits, escape c = '\\' :: digits ∧ digits.length = 3 ∧ digits.all Char.isDigit := by
  have hc : c ∈ [' ', '\t', '\n', '\\'] := by simpa [isEscaped] using h
  simp only [List.mem_cons, List.not_mem_nil, or_false] at hc
  rcases hc with rfl | rfl | rfl | rfl
  · exact ⟨"040".toList, rfl, rfl, rfl⟩
  · exact ⟨"011".toList, rfl, rfl, rfl⟩
  · exact ⟨"012".toList, rfl, rfl, rfl⟩
  · exact ⟨"134".toList, rfl, rfl, rfl⟩

/-- What is written for a character is that character, or no character but a backslash and
digits. -/
theorem eq_or_of_mem_escape (h : d ∈ escape c) :
    d = c ∧ isEscaped c = false ∨ d = '\\' ∨ d.isDigit := by
  cases hc : isEscaped c with
  | false =>
    rw [escape_of_not_isEscaped hc, List.mem_singleton] at h
    exact .inl ⟨h, rfl⟩
  | true =>
    obtain ⟨digits, heq, -, hdigits⟩ := exists_escape_eq hc
    rw [heq, List.mem_cons] at h
    exact .inr (h.imp_right (List.all_eq_true.1 hdigits d))

/-! ## The spelling of a path -/

@[simp] theorem escaped_append (s t : List Char) : escaped (s ++ t) = escaped s ++ escaped t :=
  List.flatMap_append

theorem escaped_cons (c : Char) (s : List Char) : escaped (c :: s) = escape c ++ escaped s :=
  List.flatMap_cons

theorem length_escaped (s : List Char) :
    (escaped s).length = s.length + 3 * s.countP isEscaped := by
  induction s with
  | nil => rfl
  | cons c s ih =>
    rw [escaped_cons, List.length_append, ih, List.length_cons, List.countP_cons]
    cases hc : isEscaped c with
    | false =>
      rw [escape_of_not_isEscaped hc, List.length_singleton, if_neg (by simp)]
      omega
    | true =>
      obtain ⟨digits, heq, hlength, -⟩ := exists_escape_eq hc
      rw [heq, List.length_cons, hlength, if_pos rfl]
      omega

/-- A path is spelled as it is exactly if it has no character that is escaped. -/
theorem escaped_eq_self_iff : escaped s = s ↔ ∀ c ∈ s, isEscaped c = false := by
  constructor
  · intro h
    have hlength := length_escaped s
    rw [h] at hlength
    have hcount : s.countP isEscaped = 0 := by omega
    simpa [List.countP_eq_zero] using hcount
  · intro h
    rw [escaped, List.flatMap_congr fun c hc => escape_of_not_isEscaped (h c hc)]
    exact List.flatMap_singleton' s

/-- A text that needs no escape is spelled by itself alone. -/
theorem escaped_eq_iff (ht : ∀ c ∈ t, isEscaped c = false) : escaped s = t ↔ s = t := by
  constructor
  · rintro rfl
    refine (escaped_eq_self_iff.2 fun c hc => ?_).symm
    cases hescaped : isEscaped c with
    | false => rfl
    | true =>
      -- it would leave a backslash, which is an escaped character itself
      obtain ⟨digits, heq, -⟩ := exists_escape_eq hescaped
      have hmem : '\\' ∈ escaped s := List.mem_flatMap.2 ⟨c, hc, heq ▸ List.mem_cons_self⟩
      exact absurd (ht _ hmem) (by decide)
  · rintro rfl
    exact escaped_eq_self_iff.2 ht

/-- The blanks of a spelling are those of the path that are not escaped. -/
theorem mem_escaped_iff_of_isBlank (h : Text.isBlank d = true) :
    d ∈ escaped s ↔ d ∈ s ∧ isEscaped d = false := by
  rw [escaped, List.mem_flatMap]
  constructor
  · rintro ⟨c, hc, hd⟩
    rcases eq_or_of_mem_escape hd with ⟨rfl, hnot⟩ | rfl | hdigit
    · exact ⟨hc, hnot⟩
    · exact absurd h (by decide)
    · exact absurd h (by simp [Numeral.isBlank_of_isDigit hdigit])
  · rintro ⟨hd, hnot⟩
    exact ⟨d, hd, by rw [escape_of_not_isEscaped hnot]; exact List.mem_cons_self⟩

/-- A path is spelled as one word if it has no blanks but those that are escaped. -/
theorem isWord_escaped (hne : s ≠ [])
    (hblank : ∀ c ∈ s, Text.isBlank c = true → isEscaped c = true) : Text.IsWord (escaped s) := by
  refine ⟨fun hnil => hne ((escaped_eq_iff (by simp)).1 hnil), fun c hc => ?_⟩
  cases hc' : Text.isBlank c with
  | false => rfl
  | true =>
    obtain ⟨hmem, hnot⟩ := (mem_escaped_iff_of_isBlank hc').1 hc
    exact absurd (hblank c hmem hc') (by simp [hnot])

/-! ## Names -/

/-- The spelling of a component. -/
def escapedComponent : Component → Component
  | .normal name => .normal (escaped name)
  | c => c

theorem slash_mem_escaped (h : '/' ∈ escaped s) : '/' ∈ s := by
  obtain ⟨c, hc, hslash⟩ := List.mem_flatMap.1 h
  rcases eq_or_of_mem_escape hslash with ⟨rfl, -⟩ | hslash | hslash
  · exact hc
  · exact absurd hslash (by decide)
  · exact absurd hslash (by decide)

theorem ofSegment?_escaped (s : List Char) :
    Path.ofSegment? (escaped s) = (Path.ofSegment? s).map escapedComponent := by
  have hdots : ∀ dots ∈ [[], ['.'], ['.', '.']], escaped s = dots ↔ s = dots := by
    intro dots hdots
    refine escaped_eq_iff fun c hc => ?_
    simp only [List.mem_cons, List.not_mem_nil, or_false] at hdots
    rcases hdots with rfl | rfl | rfl <;> simp_all [isEscaped]
  unfold Path.ofSegment?
  simp only [hdots [] (by simp), hdots ['.'] (by simp), hdots ['.', '.'] (by simp)]
  split
  · rfl
  · split <;> rfl

/-- A path is spelled name by name. -/
theorem segments_escaped (s : List Char) :
    Path.segments (escaped s) = (Path.segments s).map escapedComponent := by
  have hfree : ∀ {s : List Char}, '/' ∉ s → '/' ∉ escaped s := fun hs h => hs (slash_mem_escaped h)
  induction s using Path.slash_induction with
  | piece s hs =>
    rw [Path.segments_of_not_mem hs, Path.segments_of_not_mem (hfree hs), ofSegment?_escaped]
    cases Path.ofSegment? s <;> rfl
  | slash s t hs ih =>
    have hslash : escaped (s ++ '/' :: t) = escaped s ++ '/' :: escaped t := by
      rw [escaped_append, escaped_cons]
      rfl
    rw [hslash, Path.segments_piece_append hs, Path.segments_piece_append (hfree hs),
      ofSegment?_escaped, ih, List.map_append]
    cases Path.ofSegment? s <;> rfl

/-- A path of which the spelling has the same segments has nothing to escape. -/
theorem not_isEscaped_of_segments (h : Path.segments (escaped s) = Path.segments s) :
    ∀ c ∈ s, isEscaped c = false := by
  intro c hc
  by_contra hescaped
  have hslash : c ≠ '/' := by
    rintro rfl
    exact hescaped rfl
  have hdot : c ≠ '.' := by
    rintro rfl
    exact hescaped rfl
  obtain ⟨name, hname, hmem⟩ := (Path.mem_iff_of_segments hslash hdot).1 hc
  rw [segments_escaped] at h
  -- every segment is spelled as it is, and so is the one with this character
  have hself : escapedComponent (.normal name) = .normal name :=
    List.map_eq_map_iff.1 (h.trans (List.map_id _).symm) _ hname
  exact hescaped (escaped_eq_self_iff.1 (Component.normal.inj hself) c hmem)

/-- A path without a blank and without a character that is escaped is spelled as it is, in one
word. -/
def IsPlain (s : List Char) : Prop :=
  ∀ c ∈ s, Text.isBlank c = false ∧ isEscaped c = false

instance (s : List Char) : Decidable (IsPlain s) :=
  decidable_of_iff (s.all fun c => !Text.isBlank c && !isEscaped c) (by simp [IsPlain])

/-! ## Lines -/

/-- The line of a version 1 mount that shows its hierarchy below `top`. The spelling of `top` is its
root, and the other fields are words as they stand. -/
structure Fields.Shows (f : Fields) (top : Path) : Prop where
  valid : f.Valid
  type : f.fsType = Mount.fsType.toList
  root : f.root = escaped top.chars
  isWord : ∀ w ∈ f.front ++ f.back, Text.IsWord w

namespace Fields.Shows

variable {f : Fields} {top : Path}

theorem forall_words {motive : List Char → Prop} (h : f.Shows top)
    (hroot : motive (escaped top.chars)) (hword : ∀ w, Text.IsWord w → motive w) :
    ∀ w ∈ f.words, motive w := by
  intro w hw
  rw [Fields.words, h.root] at hw
  rcases List.mem_append.1 hw with hw | hw
  · exact hword w (h.isWord w (List.mem_append_left _ hw))
  · rcases List.mem_cons.1 hw with rfl | hw
    · exact hroot
    · exact hword w (h.isWord w (List.mem_append_right _ hw))

/-- A root that keeps no blank is read as it is spelled. -/
theorem read_text (h : f.Shows top) (habs : top.isAbsolute = true)
    (hblank : ∀ c ∈ top.chars, Text.isBlank c = true → isEscaped c = true) :
    read (Text.encode f.text) = .ok [f.info] := by
  have hroot := isWord_escaped (Path.chars_ne_nil_of_isAbsolute habs) hblank
  exact f.read_text h.valid (h.forall_words hroot fun w hw => hw)

/-- Any other root is read up to the first blank in it. -/
theorem exists_of_read {infos : List MountInfo} (h : f.Shows top) (habs : top.isAbsolute = true)
    (hread : read (Text.encode f.text) = .ok infos) :
    ∃ info w ws, infos = [info] ∧ info.root = ⟨w⟩ ∧ Text.words (escaped top.chars) = w :: ws ∧
      Text.IsWord w := by
  have hnewline : ∀ w ∈ f.words, '\n' ∉ w := by
    refine h.forall_words (fun hmem => ?_) fun w hw hmem => absurd (hw.2 _ hmem) (by decide)
    exact absurd ((mem_escaped_iff_of_isBlank (by decide)).1 hmem).2 (by decide)
  obtain ⟨w, ws, hwords, hw⟩ : ∃ w ws, Text.words (escaped top.chars) = w :: ws ∧
      Text.IsWord w := by
    obtain ⟨rest, hrest⟩ := Path.exists_chars_eq_cons habs
    rw [hrest, escaped_cons]
    exact Text.exists_words_eq_cons (escaped rest) (by decide)
  rw [read_encode_text hnewline] at hread
  cases hline : ofLine (Text.encode f.text) with
  | error fault => simp [hline, Except.map] at hread
  | ok info =>
    rw [hline] at hread
    obtain ⟨g, ⟨-, text, htext, hg⟩, rfl⟩ := ofLine_eq_ok_iff.1 hline
    obtain rfl := Text.encode_injective htext
    refine ⟨g.info, w, ws, (Except.ok.inj hread).symm, ?_, hwords, hw⟩
    -- both have three words in front of the root
    have hfront : f.front.flatMap Text.words = f.front := by
      have hword : ∀ w ∈ f.front, Text.words w = [w] := fun w hw =>
        Text.words_of_isWord (h.isWord w (List.mem_append_left _ hw))
      rw [List.flatMap_congr hword, List.flatMap_singleton']
    rw [Fields.text, Text.words_intercalate, Fields.words, List.flatMap_append, hfront, h.root,
      List.flatMap_cons, hwords] at hg
    have hroot : w = g.root := by
      simp only [Fields.words, Fields.front, List.cons_append, List.nil_append,
        List.cons.injEq] at hg
      exact hg.2.2.2.1
    rw [Fields.info, hroot]

end Fields.Shows

end MountInfo
end Cgroup
