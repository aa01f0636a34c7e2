import Cgroup.Proofs.Text.Lines

/-!
# Streams put together from lines

`Joins` puts a stream together from lines as a writer may do it: each line gets an end of either
kind, the last one may do without. A line that ends in a carriage return, or that gets one in front
of its newline, is then cut to another line than the writer meant, so that `lines` does not give
back what was joined. It does so apart from a carriage return at the end of a line, which is all
that a reader of lines has to be indifferent to (`map_lines_of_joins`). `decode?_append_return`
says that decoding has no part in this.
-/

namespace Cgroup.Text

/-! ## Joined lines -/

/-- A stream that is put together from lines. Each line ends at a newline, with a carriage return in
front of it or without; the last one needs no end if it is not empty. -/
inductive Joins : List (List UInt8) → List UInt8 → Prop where
  /-- No lines make an empty stream. -/
  | nil : Joins [] []
  /-- A line may stand alone. -/
  | unended {line : List UInt8} (hne : line ≠ []) (hline : 10 ∉ line) : Joins [line] line
  /-- A line may end at a newline alone. -/
  | newline {line rest : List UInt8} {lines : List (List UInt8)} (hline : 10 ∉ line)
      (hrest : Joins lines rest) : Joins (line :: lines) (line ++ 10 :: rest)
  /-- A line may end at a carriage return and a newline. -/
  | returnNewline {line rest : List UInt8} {lines : List (List UInt8)} (hline : 10 ∉ line)
      (hrest : Joins lines rest) : Joins (line :: lines) (line ++ 13 :: 10 :: rest)

/-- A stream is put together from the lines of which it is made. -/
theorem LinesOf.joins {bytes : List UInt8} {ls : List (List UInt8)} (h : LinesOf bytes ls) :
    Joins ls bytes := by
  induction h with
  | nil => exact .nil
  | unended hne hline => exact .unended hne hline
  | newline hline hend hrest ih => exact .newline hline ih
  | returnNewline hline hrest ih => exact .returnNewline hline ih

/-- Every stream is put together from lines, those into which it is cut for one. -/
theorem joins_lines (bytes : List UInt8) : Joins (lines bytes) bytes :=
  (linesOf_lines bytes).joins

/-- Without the carriage return that may be dropped, the rest of a line is all of it. -/
theorem eq_dropReturn_or (s : List UInt8) : s = dropReturn s ∨ s = dropReturn s ++ [13] := by
  unfold dropReturn
  split
  · rename_i hend
    obtain ⟨line, rfl⟩ := List.getLast?_eq_some_iff.1 hend
    exact .inr (by rw [List.dropLast_concat])
  · exact .inl rfl

variable {α : Type} {f : List UInt8 → α}

theorem apply_dropReturn (hf : ∀ line, f (line ++ [13]) = f line) (line : List UInt8) :
    f (dropReturn line) = f line := by
  rcases eq_dropReturn_or line with h | h
  · rw [← h]
  · rw [← hf (dropReturn line), ← h]

/-- What takes no notice of a carriage return at the end of a line is the same for the lines of a
stream as for those that were joined. -/
theorem map_lines_of_joins (hf : ∀ line, f (line ++ [13]) = f line) {ls : List (List UInt8)}
    {bytes : List UInt8} (h : Joins ls bytes) : (lines bytes).map f = ls.map f := by
  induction h with
  | nil => rfl
  | unended hne hline => rw [lines_of_not_mem hline, if_neg hne]
  | newline hline hrest ih =>
    rw [lines_append_newline hline, List.map_cons, List.map_cons, ih, apply_dropReturn hf]
  | @returnNewline line rest lines hline hrest ih =>
    have hreturn : 10 ∉ line ++ [13] := by simpa using hline
    rw [List.append_cons, lines_append_newline hreturn, List.map_cons, List.map_cons, ih,
      dropReturn_append_return]

/-! ## ASCII among the bytes -/

theorem encode_eq_flatMap (s : List Char) : encode s = s.flatMap String.utf8EncodeChar := by
  rw [encode, String.toUTF8_eq_toByteArray, String.toByteArray_ofList]
  exact List.toList_data_toByteArray

theorem encode_append (s t : List Char) : encode (s ++ t) = encode s ++ encode t := by
  simp only [encode_eq_flatMap, List.flatMap_append]

/-- The bytes of a character that is not ASCII are none of them ASCII. -/
theorem utf8EncodeChar_eq_of_mem {c : Char} {b : UInt8} (h : b ∈ String.utf8EncodeChar c)
    (hascii : b < 128) : String.utf8EncodeChar c = [b] := by
  have hlt : b.toNat < 128 := hascii
  unfold String.utf8EncodeChar at h ⊢
  simp only at h ⊢
  split_ifs at h ⊢ <;> simp only [List.mem_cons, List.not_mem_nil, or_false] at h
  · rw [h]
  -- each byte of several is 128 or more
  all_goals
    simp only [← UInt8.toNat_inj, UInt8.toNat_ofNat'] at h
    omega

theorem encode_injective {s t : List Char} (h : encode s = encode t) : s = t := by
  rw [← Option.some_inj, ← decode?_encode s, h, decode?_encode]

/-- A newline among the bytes is one in the text. -/
theorem newline_mem_of_mem_encode {s : List Char} (h : 10 ∈ encode s) : '\n' ∈ s := by
  rw [encode_eq_flatMap, List.mem_flatMap] at h
  obtain ⟨c, hc, hmem⟩ := h
  have hnewline : encode ['\n'] = [10] := by decide
  have hbytes : encode [c] = encode ['\n'] := by
    rw [hnewline, encode_eq_flatMap, List.flatMap_singleton,
      utf8EncodeChar_eq_of_mem hmem (by decide)]
  obtain rfl := List.singleton_inj.1 (encode_injective hbytes)
  exact hc

/-- A carriage return at the end of the bytes is one at the end of the text. -/
theorem decode?_append_return (bytes : List UInt8) :
    decode? (bytes ++ [13]) = (decode? bytes).map (· ++ ['\r']) := by
  cases htext : decode? bytes with
  | some s =>
    have hreturn : encode ['\r'] = [13] := by decide
    rw [Option.map_some, decode?_eq_some_iff, encode_append, decode?_eq_some_iff.1 htext, hreturn]
  | none =>
    rw [Option.map_none, decode?_eq_none_iff]
    intro s hs
    -- without its last character, the text would be what the bytes encode
    rcases List.eq_nil_or_concat s with rfl | ⟨front, c, rfl⟩
    · simp [encode_eq_flatMap] at hs
    · rw [List.concat_eq_append, encode_append, encode_eq_flatMap [c], List.flatMap_singleton] at hs
      have hlast : (String.utf8EncodeChar c).getLast? = some 13 := by
        have hend := congrArg List.getLast? hs
        rwa [List.getLast?_append_of_ne_nil _ String.utf8EncodeChar_ne_nil,
          List.getLast?_concat] at hend
      rw [utf8EncodeChar_eq_of_mem (List.mem_of_getLast? hlast) (by decide),
        List.append_cancel_right_eq] at hs
      exact decode?_eq_none_iff.1 htext front hs

/-- A blank at the end of a text is trimmed. -/
theorem trim_append_blank {c : Char} (s : List Char) (h : isBlank c = true) :
    trim (s ++ [c]) = trim s := by
  rw [trim, List.dropWhile_append]
  split
  · rename_i hs
    rw [trim, List.isEmpty_iff.1 hs, List.dropWhile_cons_of_pos h]
    rfl
  · rw [trimEnd_append_blank _ h, trim]

end Cgroup.Text
