import Mathlib.Data.List.Infix
import Mathlib.Data.List.TakeWhile
import Cgroup.Text.Cut
import Cgroup.Text.Lines

/-!
# What the lines of a stream are

`lines`, `decode?` and `trim` take a stream apart. Each is given here by what it leaves: a relation
between a text and its parts that says how the text is put together from them.

* `lines_eq_iff`: the lines of a stream, put together with their ends, are the stream;
* `decode?_eq_some_iff`: a text is decoded from a line exactly if the line is its encoding;
* `trim_eq_iff`: a trimmed text is the text without the blanks around it.

By `words_intercalate` texts with spaces between them have the words of each.

The last section is about reading line after line. A reading succeeds if it does on every line, and
otherwise fails as it does on the first line where it does not. `reading_eq_iff` is the way to say
what it does on one: name the successes and the failures, and show that one of them is always there.
-/

namespace Cgroup.Text

/-! ## Lines -/

/-- The lines of which a stream is made. A newline ends a line, and so does a carriage return with a
newline behind it. A line at the end of the stream needs no end, but it is not empty then. -/
inductive LinesOf : List UInt8 → List (List UInt8) → Prop where
  /-- An empty stream has no lines. -/
  | nil : LinesOf [] []
  /-- A stream without a newline is a line. -/
  | unended {line : List UInt8} (hne : line ≠ []) (hline : 10 ∉ line) : LinesOf line [line]
  /-- A line that ends at a newline alone. -/
  | newline {line rest : List UInt8} {lines : List (List UInt8)} (hline : 10 ∉ line)
      (hend : line.getLast? ≠ some 13) (hrest : LinesOf rest lines) :
      LinesOf (line ++ 10 :: rest) (line :: lines)
  /-- A line that ends at a carriage return and a newline. -/
  | returnNewline {line rest : List UInt8} {lines : List (List UInt8)} (hline : 10 ∉ line)
      (hrest : LinesOf rest lines) : LinesOf (line ++ 13 :: 10 :: rest) (line :: lines)

/-- A stream without a newline is a line, unless it is empty. -/
theorem lines_of_not_mem {s : List UInt8} (h : 10 ∉ s) :
    lines s = if s = [] then [] else [s] := by
  rw [lines, List.splitOn_eq_singleton h]
  by_cases hs : s = [] <;> simp [hs]

/-- What is in front of the first newline is the first line, without a carriage return. -/
theorem lines_append_newline {s : List UInt8} (h : 10 ∉ s) (rest : List UInt8) :
    lines (s ++ 10 :: rest) = dropReturn s :: lines rest := by
  have hrest : rest.splitOn 10 ≠ [] := List.splitOn_ne_nil 10 rest
  rw [lines, lines, List.splitOn_append_cons_self, List.splitOn_eq_singleton h,
    List.dropLast_append_of_ne_nil hrest, List.getLast?_append_of_ne_nil _ hrest]
  rfl

theorem dropReturn_append_return (s : List UInt8) : dropReturn (s ++ [13]) = s := by
  simp [dropReturn]

theorem linesOf_lines (bytes : List UInt8) : LinesOf bytes (lines bytes) := by
  induction bytes using cut_induction (10 : UInt8) with
  | piece s hs =>
    rw [lines_of_not_mem hs]
    by_cases hne : s = []
    · rw [if_pos hne, hne]
      exact .nil
    · rw [if_neg hne]
      exact .unended hne hs
  | cut s t hs ih =>
    rw [lines_append_newline hs]
    by_cases hend : s.getLast? = some 13
    · obtain ⟨line, rfl⟩ := List.getLast?_eq_some_iff.1 hend
      rw [dropReturn_append_return, List.append_assoc, List.singleton_append]
      exact .returnNewline (fun hmem => hs (List.mem_append_left _ hmem)) ih
    · rw [dropReturn, if_neg hend]
      exact .newline hs hend ih

/-- The lines of a stream are the ones of which it is made. -/
theorem lines_eq_iff {bytes : List UInt8} {ls : List (List UInt8)} :
    lines bytes = ls ↔ LinesOf bytes ls := by
  refine ⟨fun h => h ▸ linesOf_lines bytes, fun h => ?_⟩
  induction h with
  | nil => rfl
  | unended hne hline => rw [lines_of_not_mem hline, if_neg hne]
  | newline hline hend hrest ih => rw [lines_append_newline hline, dropReturn, if_neg hend, ih]
  | @returnNewline line rest lines hline hrest ih =>
    have hreturn : 10 ∉ line ++ [13] := by simpa using hline
    rw [List.append_cons, lines_append_newline hreturn, dropReturn_append_return, ih]

/-! ## Text -/

/-- A line is decoded to the text that it encodes. -/
theorem decode?_eq_some_iff {bytes : List UInt8} {s : List Char} :
    decode? bytes = some s ↔ encode s = bytes := by
  refine ⟨fun h => ?_, fun h => h ▸ decode?_encode s⟩
  obtain ⟨text, htext, rfl⟩ := Option.map_eq_some_iff.1 h
  unfold String.fromUTF8? at htext
  split at htext
  · obtain rfl := Option.some.inj htext
    rw [encode, String.ofList_toList]
    rfl
  · cases htext

theorem decode?_eq_none_iff {bytes : List UInt8} :
    decode? bytes = none ↔ ∀ s, encode s ≠ bytes := by
  simp only [Option.eq_none_iff_forall_ne_some, ne_eq, decode?_eq_some_iff]

/-! ## Blanks around a text -/

/-- A text is another one with blanks around it, which begins and ends in no blank itself. -/
structure Trims (text trimmed : List Char) : Prop where
  /-- There are nothing but blanks around it. -/
  blanks : ∃ front back, (∀ c ∈ front, isBlank c) ∧ (∀ c ∈ back, isBlank c) ∧
    text = front ++ trimmed ++ back
  /-- It begins in no blank. -/
  head : ∀ c ∈ trimmed.head?, isBlank c = false
  /-- It ends in no blank. -/
  last : ∀ c ∈ trimmed.getLast?, isBlank c = false

theorem dropWhile_isBlank_eq_self {s : List Char} (h : ∀ c ∈ s.head?, isBlank c = false) :
    s.dropWhile isBlank = s := by
  cases s with
  | nil => rfl
  | cons c s => exact List.dropWhile_cons_of_neg (by simp [h c rfl])

theorem head?_dropWhile_isBlank {s : List Char} {c : Char}
    (h : c ∈ (s.dropWhile isBlank).head?) : isBlank c = false := by
  have hnot := List.head?_dropWhile_not isBlank s
  rw [Option.mem_def.1 h] at hnot
  exact hnot

/-- Blanks at the end go, and nothing else does. -/
theorem exists_trimEnd_append (s : List Char) :
    ∃ back, (∀ c ∈ back, isBlank c) ∧ s = trimEnd s ++ back := by
  refine ⟨(s.reverse.takeWhile isBlank).reverse, ?_, ?_⟩
  · intro c hc
    exact List.mem_takeWhile_imp (List.mem_reverse.1 hc)
  · rw [trimEnd, ← List.reverse_append, List.takeWhile_append_dropWhile, List.reverse_reverse]

theorem isBlank_of_mem_getLast?_trimEnd {s : List Char} {c : Char}
    (h : c ∈ (trimEnd s).getLast?) : isBlank c = false := by
  rw [trimEnd, List.getLast?_reverse] at h
  exact head?_dropWhile_isBlank h

theorem trims_trim (s : List Char) : Trims s (trim s) := by
  obtain ⟨back, hback, heq⟩ := exists_trimEnd_append (s.dropWhile isBlank)
  refine ⟨⟨s.takeWhile isBlank, back, fun _ => List.mem_takeWhile_imp, hback, ?_⟩, ?_, ?_⟩
  · rw [trim, List.append_assoc, ← heq, List.takeWhile_append_dropWhile]
  · -- what is left at the front was there before the blanks at the end went
    intro c hc
    refine head?_dropWhile_isBlank (s := s) ?_
    have hc' : (trimEnd (s.dropWhile isBlank)).head? = some c := hc
    rw [heq, List.head?_append, hc']
    rfl
  · intro c hc
    exact isBlank_of_mem_getLast?_trimEnd hc

/-- Trimming takes the blanks off both ends, and nothing else. -/
theorem trim_eq_iff {s t : List Char} : trim s = t ↔ Trims s t := by
  refine ⟨fun h => h ▸ trims_trim s, fun h => ?_⟩
  obtain ⟨⟨front, back, hfront, hback, rfl⟩, hhead, hlast⟩ := h
  have hback' : ∀ c ∈ back.reverse, isBlank c := fun c hc => hback c (List.mem_reverse.1 hc)
  have hlast' : ∀ c ∈ t.reverse.head?, isBlank c = false := by
    rwa [List.head?_reverse]
  have hend : trimEnd (t ++ back) = t := by
    rw [trimEnd, List.reverse_append, List.dropWhile_append_of_pos hback',
      dropWhile_isBlank_eq_self hlast', List.reverse_reverse]
  rw [trim, List.append_assoc, List.dropWhile_append_of_pos hfront]
  by_cases ht : t = []
  · -- only blanks are left, which are all taken off the front
    rw [ht, List.nil_append, List.dropWhile_eq_nil_iff.2 hback]
    rfl
  · have hhead' : ∀ c ∈ (t ++ back).head?, isBlank c = false := by
      rwa [List.head?_append_of_ne_nil _ ht]
    rw [dropWhile_isBlank_eq_self hhead', hend]

/-! ## Words -/

/-- A text without a blank that is not empty. -/
def IsWord (w : List Char) : Prop :=
  w ≠ [] ∧ ∀ c ∈ w, isBlank c = false

instance (w : List Char) : Decidable (IsWord w) :=
  decidable_of_iff (w ≠ [] ∧ w.all (!isBlank ·)) (by simp [IsWord])

/-- The words of two texts with a blank between them are those of both. -/
theorem words_append_blank {c : Char} (h : isBlank c = true) (s t : List Char) :
    words (s ++ c :: t) = words s ++ words t := by
  rw [words, List.splitOnP_append_cons s t h, List.filter_append, words, words]

theorem words_of_isWord {w : List Char} (h : IsWord w) : words w = [w] := by
  rw [words, List.splitOnP_eq_singleton h.2]
  simp [h.1]

/-- A text that begins in no blank begins with a word. -/
theorem exists_words_eq_cons {c : Char} (s : List Char) (h : isBlank c = false) :
    ∃ w ws, words (c :: s) = w :: ws ∧ IsWord w := by
  have hsplit : c :: s.takeWhile (!isBlank ·) ++ s.dropWhile (!isBlank ·) = c :: s := by
    rw [List.cons_append, List.takeWhile_append_dropWhile]
  have hword : IsWord (c :: s.takeWhile (!isBlank ·)) := by
    refine ⟨List.cons_ne_nil _ _, List.forall_mem_cons.2 ⟨h, fun d hd => ?_⟩⟩
    simpa using List.mem_takeWhile_imp hd
  cases hrest : s.dropWhile (!isBlank ·) with
  | nil =>
    rw [hrest, List.append_nil] at hsplit
    exact ⟨_, [], by rw [← hsplit, words_of_isWord hword], hword⟩
  | cons d rest =>
    -- what is left begins in the blank that ends the word
    have hblank : isBlank d = true := by
      have hnot := List.head?_dropWhile_not (!isBlank ·) s
      simpa [hrest] using hnot
    rw [hrest] at hsplit
    exact ⟨_, words rest, by rw [← hsplit, words_append_blank hblank, words_of_isWord hword]; rfl,
      hword⟩

/-- The words of texts with single spaces between them are those of each. -/
theorem words_intercalate (texts : List (List Char)) :
    words ([' '].intercalate texts) = texts.flatMap words := by
  induction texts with
  | nil => rfl
  | cons s texts ih =>
    cases texts with
    | nil => simp
    | cons t texts =>
      rw [List.intercalate_cons_cons, List.append_assoc, List.singleton_append,
        words_append_blank (by decide), ih]
      rfl

/-- Words with single spaces between them are found again. -/
theorem words_intercalate_of_isWord {ws : List (List Char)} (h : ∀ w ∈ ws, IsWord w) :
    words ([' '].intercalate ws) = ws := by
  rw [words_intercalate, List.flatMap_congr fun w hw => words_of_isWord (h w hw),
    List.flatMap_singleton']

/-! ## Line after line -/

section

variable {α β ε : Type}

/-- A reading has the outcomes that it should have and no others, if there is always one that it
should have. -/
theorem reading_eq_iff {reading : Except ε α} {accepts : α → Prop} {refuses : ε → Prop}
    (hok : ∀ a, accepts a → reading = .ok a) (herror : ∀ e, refuses e → reading = .error e)
    (htotal : (∃ a, accepts a) ∨ ∃ e, refuses e) :
    (∀ a, reading = .ok a ↔ accepts a) ∧ ∀ e, reading = .error e ↔ refuses e := by
  refine ⟨fun a => ⟨fun h => ?_, hok a⟩, fun e => ⟨fun h => ?_, herror e⟩⟩
  · rcases htotal with ⟨a', ha'⟩ | ⟨e', he'⟩
    · obtain rfl := Except.ok.inj (h.symm.trans (hok a' ha'))
      exact ha'
    · cases h.symm.trans (herror e' he')
  · rcases htotal with ⟨a', ha'⟩ | ⟨e', he'⟩
    · cases h.symm.trans (hok a' ha')
    · obtain rfl := Except.error.inj (h.symm.trans (herror e' he'))
      exact he'

variable {f : α → Except ε β} {xs : List α}

/-- A reading of many succeeds if it does on each. -/
theorem mapM_eq_ok_iff {ys : List β} : xs.mapM f = .ok ys ↔ xs.map f = ys.map .ok := by
  induction xs generalizing ys with
  | nil => cases ys <;> simp [pure, Except.pure]
  | cons x xs ih =>
    cases ys with
    | nil =>
      rw [List.mapM_cons]
      cases f x with
      | error e => simp [bind, Except.bind]
      | ok y => cases xs.mapM f <;> simp [bind, Except.bind, pure, Except.pure]
    | cons y ys =>
      rw [List.mapM_cons, List.map_cons, List.map_cons, List.cons.injEq, ← ih]
      cases f x with
      | error e => simp [bind, Except.bind]
      | ok y' => cases xs.mapM f <;> simp [bind, Except.bind, pure, Except.pure]

theorem mapM_cons_eq_error_iff {x : α} {e : ε} :
    (x :: xs).mapM f = .error e ↔
      f x = .error e ∨ (∃ y, f x = .ok y) ∧ xs.mapM f = .error e := by
  rw [List.mapM_cons]
  cases f x with
  | error e' => simp [bind, Except.bind]
  | ok y => cases xs.mapM f <;> simp [bind, Except.bind, pure, Except.pure]

/-- A reading of many fails as it does on the first one where it does. -/
theorem mapM_eq_error_iff {e : ε} :
    xs.mapM f = .error e ↔ ∃ before x after, xs = before ++ x :: after ∧
      (∀ y ∈ before, ∃ b, f y = .ok b) ∧ f x = .error e := by
  induction xs with
  | nil => simp [pure, Except.pure]
  | cons x xs ih =>
    rw [mapM_cons_eq_error_iff, ih]
    constructor
    · rintro (hx | ⟨hx, before, x', after, rfl, hbefore, hx'⟩)
      · exact ⟨[], x, xs, rfl, by simp, hx⟩
      · exact ⟨x :: before, x', after, rfl, List.forall_mem_cons.2 ⟨hx, hbefore⟩, hx'⟩
    · rintro ⟨before, x', after, hxs, hbefore, hx'⟩
      cases before with
      | nil =>
        obtain ⟨rfl, rfl⟩ := List.cons.inj hxs
        exact .inl hx'
      | cons first before =>
        obtain ⟨rfl, rfl⟩ := List.cons.inj hxs
        obtain ⟨hfirst, hbefore⟩ := List.forall_mem_cons.1 hbefore
        exact .inr ⟨hfirst, before, x', after, rfl, hbefore, hx'⟩

end

end Cgroup.Text
