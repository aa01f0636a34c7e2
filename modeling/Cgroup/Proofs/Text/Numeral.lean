import Mathlib.Data.List.Basic
import Cgroup.Text.Lines
import Cgroup.Text.Numeral

/-!
# What numerals are

The digits that a number is written with, and what a numeral of 32 bits looks like (`IsWord32`),
said without reading it. `word32?_eq_some_iff` says that these are the texts that are read as one.
-/

namespace Cgroup.Numeral

/-! ## Digits -/

theorem natural?_eq_some_iff {s : List Char} {n : Nat} :
    natural? s = some n ↔ s ≠ [] ∧ (∀ c ∈ s, c.isDigit) ∧ Nat.ofDigitChars 10 s 0 = n := by
  rw [natural?, Option.ite_none_right_eq_some, List.all_eq_true, Option.some.injEq, and_assoc]

theorem digits_ne_nil (n : Nat) : digits n ≠ [] :=
  (natural?_eq_some_iff.1 (natural?_digits n)).1

theorem isDigit_of_mem_digits {n : Nat} {c : Char} (h : c ∈ digits n) : c.isDigit :=
  (natural?_eq_some_iff.1 (natural?_digits n)).2.1 c h

theorem ofDigitChars_digits (n : Nat) : Nat.ofDigitChars 10 (digits n) 0 = n :=
  (natural?_eq_some_iff.1 (natural?_digits n)).2.2

/-- A number that may be negative is written with digits and a sign. -/
theorem eq_minus_or_isDigit_of_mem_signed {i : Int} {c : Char} (h : c ∈ signed i) :
    c = '-' ∨ c.isDigit := by
  unfold signed at h
  split at h
  · rcases List.mem_cons.1 h with hminus | hdigits
    · exact .inl hminus
    · exact .inr (isDigit_of_mem_digits hdigits)
  · exact .inr (isDigit_of_mem_digits h)

/-- No number but zero is written with a zero in front. -/
theorem head?_digits_ne_zero {n : Nat} (hn : n ≠ 0) : (digits n).head? ≠ some '0' := by
  induction n using Nat.strongRecOn with
  | ind n ih =>
    by_cases hlt : n < 10
    · have hdigit : ∀ d < 10, d ≠ 0 → Nat.digitChar d ≠ '0' := by decide
      rw [digits, Nat.toDigits_of_lt_base hlt, List.head?_cons]
      simpa using hdigit n hlt hn
    · have hquotient : n / 10 ≠ 0 := by omega
      rw [digits, Nat.toDigits_of_base_le (by decide) (Nat.le_of_not_lt hlt),
        List.head?_append_of_ne_nil _ Nat.toDigits_ne_nil]
      exact ih (n / 10) (by omega) hquotient

theorem isBlank_of_isDigit {c : Char} (h : c.isDigit) : Text.isBlank c = false := by
  have hdigit : 48 ≤ c.toNat ∧ c.toNat ≤ 57 := by
    simpa [Char.isDigit, UInt32.le_iff_toNat_le] using h
  have hranges : ∀ range ∈ Text.blankRanges, range.2 < 48 ∨ 57 < range.1 := by decide
  rw [Text.isBlank, List.any_eq_false]
  intro range hrange hmem
  have hrange := hranges range hrange
  simp only [Bool.and_eq_true, decide_eq_true_eq] at hmem
  omega

/-! ## Numerals of 32 bits -/

/-- A numeral of 32 bits with its value: digits, at least one, with an optional `+` in front. -/
def IsWord32 (s : List Char) (value : Nat) : Prop :=
  ∃ digits, (s = digits ∨ s = '+' :: digits) ∧ digits ≠ [] ∧ (∀ c ∈ digits, c.isDigit) ∧
    Nat.ofDigitChars 10 digits 0 = value ∧ value ≤ 4294967295

/-- What is behind the sign of a numeral, whether it has one or not. -/
theorem dropPlus_eq {s digits : List Char} (hs : s = digits ∨ s = '+' :: digits)
    (hdigits : ∀ c ∈ digits, c.isDigit) : dropPlus s = digits := by
  rcases hs with rfl | rfl
  · apply if_neg
    intro hhead
    have hplus := hdigits '+' (List.mem_of_mem_head? hhead)
    exact absurd hplus (by decide)
  · rfl

theorem eq_dropPlus_or (s : List Char) : s = dropPlus s ∨ s = '+' :: dropPlus s := by
  unfold dropPlus
  split
  · rename_i hhead
    exact .inr (List.eq_cons_of_mem_head? hhead)
  · exact .inl rfl

/-- A numeral of 32 bits is read as its value, and nothing else is read. -/
theorem word32?_eq_some_iff {s : List Char} {n : UInt32} :
    word32? s = some n ↔ IsWord32 s n.toNat := by
  rw [word32?, Option.bind_eq_some_iff]
  constructor
  · rintro ⟨value, hvalue, hn⟩
    obtain ⟨hlt, hn⟩ := Option.ite_none_right_eq_some.1 hn
    obtain rfl := Option.some.inj hn
    obtain ⟨hne, hdigits, hvalue⟩ := natural?_eq_some_iff.1 hvalue
    rw [UInt32.toNat_ofNat_of_lt' hlt]
    exact ⟨dropPlus s, eq_dropPlus_or s, hne, hdigits, hvalue, Nat.le_of_lt_succ hlt⟩
  · rintro ⟨digits, hs, hne, hdigits, hvalue, -⟩
    refine ⟨n.toNat, ?_, ?_⟩
    · rw [dropPlus_eq hs hdigits]
      exact natural?_eq_some_iff.2 ⟨hne, hdigits, hvalue⟩
    · rw [if_pos n.toNat_lt, UInt32.ofNat_toNat]

/-- The value of a numeral of 32 bits is a number of 32 bits. -/
theorem IsWord32.exists_toNat {s : List Char} {value : Nat} (h : IsWord32 s value) :
    ∃ n : UInt32, n.toNat = value := by
  obtain ⟨_, -, -, -, -, hle⟩ := h
  exact ⟨UInt32.ofNat value, UInt32.toNat_ofNat_of_lt' (Nat.lt_succ_of_le hle)⟩

theorem word32?_eq_none_iff {s : List Char} :
    word32? s = none ↔ ∀ value, ¬ IsWord32 s value := by
  constructor
  · intro hnone value hvalue
    obtain ⟨n, rfl⟩ := hvalue.exists_toNat
    have hsome := word32?_eq_some_iff.2 hvalue
    rw [hnone] at hsome
    cases hsome
  · intro hall
    rw [Option.eq_none_iff_forall_ne_some]
    intro n hn
    exact hall _ (word32?_eq_some_iff.1 hn)

/-- A number is a numeral by its digits. -/
theorem isWord32_digits (n : UInt32) : IsWord32 (digits n.toNat) n.toNat :=
  ⟨digits n.toNat, .inl rfl, digits_ne_nil _, fun _ => isDigit_of_mem_digits,
    ofDigitChars_digits _, Nat.le_of_lt_succ n.toNat_lt⟩

/-- A numeral is not empty and begins in no blank. -/
theorem IsWord32.exists_cons {s : List Char} {value : Nat} (h : IsWord32 s value) :
    ∃ c rest, s = c :: rest ∧ Text.isBlank c = false := by
  obtain ⟨digits, hs, hne, hdigits, -⟩ := h
  obtain ⟨c, rest, rfl⟩ := List.exists_cons_of_ne_nil hne
  rcases hs with rfl | rfl
  · exact ⟨c, rest, rfl, isBlank_of_isDigit (hdigits c List.mem_cons_self)⟩
  · exact ⟨'+', c :: rest, rfl, by decide⟩

/-- A numeral has no characters but digits and a sign. -/
theorem IsWord32.not_mem {s : List Char} {value : Nat} (h : IsWord32 s value) {c : Char}
    (hdigit : c.isDigit = false) (hplus : c ≠ '+') : c ∉ s := by
  obtain ⟨digits, hs, -, hdigits, -⟩ := h
  have hc : c ∉ digits := fun hmem => absurd (hdigits c hmem) (by simp [hdigit])
  rcases hs with rfl | rfl
  · exact hc
  · simp [hc, hplus]

end Cgroup.Numeral
