/-!
# Decimal numerals

Whole numbers written with the digits `0` to `9`. `natural?` reads digits alone, `word32?` an
unsigned and `int32?` a signed number of 32 bits, each with an optional sign in front. A number
that does not fit is refused, leading zeros are not.

`natural?_digits` says that a number is read back from its digits.
-/

namespace Cgroup.Numeral

/-- The digits of a number, most significant first and without leading zeros. -/
def digits (n : Nat) : List Char :=
  Nat.toDigits 10 n

/-- The text of a number that may be negative. -/
def signed (i : Int) : List Char :=
  if i < 0 then '-' :: digits i.natAbs else digits i.natAbs

/-- Reads a text of digits, at least one. -/
def natural? (s : List Char) : Option Nat :=
  if s ≠ [] ∧ s.all Char.isDigit then some (Nat.ofDigitChars 10 s 0) else none

/-- The text behind an optional `+`. -/
def dropPlus (s : List Char) : List Char :=
  if s.head? = some '+' then s.tail else s

/-- Reads a numeral with an optional `+`, of a value below `2 ^ 32`. -/
def word32? (s : List Char) : Option UInt32 :=
  (natural? (dropPlus s)).bind fun n =>
    if n < UInt32.size then some (UInt32.ofNat n) else none

/-- The number of 32 bits with the given value, which has to be in range. -/
def toInt32? (i : Int) : Option Int32 :=
  if Int32.minValue.toInt ≤ i ∧ i ≤ Int32.maxValue.toInt then some (Int32.ofInt i) else none

/-- Reads a numeral with an optional `+` or `-`, of a value from `-2 ^ 31` to `2 ^ 31 - 1`. -/
def int32? (s : List Char) : Option Int32 :=
  if s.head? = some '-' then (natural? s.tail).bind fun n => toInt32? (-n)
  else (natural? (dropPlus s)).bind fun n => toInt32? n

/-- A number is read back from its digits. -/
theorem natural?_digits (n : Nat) : natural? (digits n) = some n := by
  have h : (digits n).all Char.isDigit = true :=
    List.all_eq_true.2 fun _ hc => Nat.isDigit_of_mem_toDigits (by decide) (by decide) hc
  have hne : digits n ≠ [] := Nat.toDigits_ne_nil
  rw [natural?, if_pos ⟨hne, h⟩, digits, Nat.ofDigitChars_toDigits (by decide) (by decide)]

/-- A number of 32 bits is found again by its value. -/
theorem toInt32?_toInt (i : Int32) : toInt32? i.toInt = some i := by
  have hlt : i.toInt ≤ Int32.maxValue.toInt := Int.le_of_lt_add_one (Int32.toInt_lt i)
  rw [toInt32?, if_pos ⟨Int32.le_toInt i, hlt⟩, Int32.ofInt_toInt]

end Cgroup.Numeral
