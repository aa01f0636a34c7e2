import Cgroup.Text.Numeral

/-!
# Numbers in JSON

A number is kept as it is written. It is valid if a double can hold it, and it is a whole number
if it is written as one: `1.0`, `1e2` and `-0` are not.
-/

namespace Cgroup.Json

/-- A number as it is written. -/
structure Decimal where
  /-- Whether there is a minus sign. -/
  negative : Bool
  /-- The digits before the point. -/
  whole : List Char
  /-- The digits after the point, none if there is no point. -/
  fraction : List Char
  /-- The exponent, if there is one. -/
  exponent : Option Int
  deriving DecidableEq, Repr

namespace Decimal

/-- Digits before the point: one zero, or no zero in front. -/
def isWhole (digits : List Char) : Bool :=
  digits = ['0'] || (digits ≠ [] && digits.head? ≠ some '0')

/-- The digits behind a point, and the rest of the text; a point needs digits behind it. -/
def fraction? : List Char → Option (List Char × List Char)
  | '.' :: s =>
    if s.takeWhile Char.isDigit = [] then none
    else some (s.takeWhile Char.isDigit, s.dropWhile Char.isDigit)
  | s => some ([], s)

/-- Reads an exponent without its letter. -/
def power? : List Char → Option Int
  | '-' :: s => (Numeral.natural? s).map fun n => -n
  | '+' :: s => (Numeral.natural? s).map fun n => n
  | s => (Numeral.natural? s).map fun n => n

/-- Reads what follows the digits of a number: an exponent or nothing. -/
def exponent? : List Char → Option (Option Int)
  | [] => some none
  | c :: s => if c = 'e' ∨ c = 'E' then (power? s).map some else none

/-- Reads a number without its sign. -/
def unsigned? (negative : Bool) (s : List Char) : Option Decimal := do
  let whole := s.takeWhile Char.isDigit
  let (fraction, rest) ← fraction? (s.dropWhile Char.isDigit)
  let exponent ← exponent? rest
  if isWhole whole then some ⟨negative, whole, fraction, exponent⟩ else none

/-- Reads a number. -/
def ofChars? : List Char → Option Decimal
  | '-' :: s => unsigned? true s
  | s => unsigned? false s

/-- The number of a whole number. -/
def ofInt (i : Int) : Decimal :=
  ⟨i < 0, Numeral.digits i.natAbs, [], none⟩

/-- The text of a number. -/
def render (d : Decimal) : List Char :=
  (if d.negative then ['-'] else []) ++ d.whole
    ++ (if d.fraction = [] then [] else '.' :: d.fraction)
    ++ (match d.exponent with | none => [] | some e => 'e' :: Numeral.signed e)

/-- The value of a number that is written as a whole number. -/
def toInt? (d : Decimal) : Option Int :=
  if d.fraction ≠ [] ∨ d.exponent ≠ none then none
  else
    let value := Nat.ofDigitChars 10 d.whole 0
    if d.negative then (if value = 0 then none else some (-value)) else some value

/-! ## Range

A number is read into a significand of 64 bits and a power of ten, both are rounded to doubles,
and their product must not overflow. Digits that no longer fit the significand are dropped. -/

/-- Appends digits to a significand as long as it stays below `2 ^ 64`, and counts them. -/
def gather (significand : Nat) : List Char → Nat × Nat
  | [] => (significand, 0)
  | d :: ds =>
    let next := significand * 10 + (d.toNat - '0'.toNat)
    if next < UInt64.size then ((gather next ds).1, (gather next ds).2 + 1) else (significand, 0)

/-- The nearest number of at most 53 significant bits, the even one if two are as near. -/
def nearest53 (n : Nat) : Nat :=
  let unit := Nat.pow 2 (n.log2 - 52)
  let below := n / unit
  let beyond := 2 * (n % unit)
  if beyond < unit ∨ (beyond = unit ∧ below % 2 = 0) then below * unit else (below + 1) * unit

/-- The least number that is too large for a double: half a unit above the largest double. -/
def overflowBound : Nat := (Nat.pow 2 54 - 1) * Nat.pow 2 970

/-- Whether a double can hold a significand times a power of ten. The power itself has to be in
range unless the significand is zero. -/
def inRange (significand : Nat) (power : Int) : Bool :=
  significand = 0 || power ≤ 0
    || (power ≤ 308 && nearest53 significand * nearest53 (Nat.pow 10 power.toNat) < overflowBound)

/-- Whether a double can hold a number. -/
def isFinite (d : Decimal) : Bool :=
  let whole := gather 0 d.whole
  let all := gather whole.1 d.fraction
  inRange all.1 ((d.whole.length - whole.2 : Nat) - (all.2 : Int) + d.exponent.getD 0)

end Decimal
end Cgroup.Json
