import Cgroup.Json.Decimal
import Cgroup.Proofs.Text.Numeral

/-!
# Numbers that are read back

A number is read back as it is written (`ofChars?_render`) if its digits are digits, with no zero in
front, whatever its exponent. The number of a whole number below `2 ^ 64` is one of these and a
double can hold it (`isFinite_ofInt`), and its value is the whole number (`toInt?_ofInt`).
-/

namespace Cgroup.Json

/-- What stands in front of the first element that does not belong to it, and the rest. -/
theorem span_append {α : Type} {p : α → Bool} {l rest : List α} (hl : ∀ a ∈ l, p a)
    (hrest : ∀ a ∈ rest.head?, p a = false) :
    (l ++ rest).takeWhile p = l ∧ (l ++ rest).dropWhile p = rest := by
  rw [List.takeWhile_append_of_pos hl, List.dropWhile_append_of_pos hl]
  cases rest with
  | nil => exact ⟨List.append_nil l, rfl⟩
  | cons a rest =>
    have ha : ¬ p a = true := by simp [hrest a rfl]
    rw [List.takeWhile_cons_of_neg ha, List.dropWhile_cons_of_neg ha]
    exact ⟨List.append_nil l, rfl⟩

namespace Decimal

/-- A number whose digits are digits, with no zero in front. -/
structure IsProper (d : Decimal) : Prop where
  whole : isWhole d.whole
  whole_digits : ∀ c ∈ d.whole, c.isDigit
  fraction_digits : ∀ c ∈ d.fraction, c.isDigit

/-! ## Reading what was written -/

theorem power?_digits (n : Nat) : power? (Numeral.digits n) = some (n : Int) := by
  have hsign : ∀ c rest, Numeral.digits n = c :: rest → c.isDigit := by
    intro c rest hdigits
    exact Numeral.isDigit_of_mem_digits (hdigits ▸ List.mem_cons_self)
  unfold power?
  split
  · rename_i hdigits
    exact absurd (hsign _ _ hdigits) (by decide)
  · rename_i hdigits
    exact absurd (hsign _ _ hdigits) (by decide)
  · rw [Numeral.natural?_digits]
    rfl

theorem power?_cons_digits (n : Nat) : power? ('-' :: Numeral.digits n) = some (-(n : Int)) := by
  rw [power?, Numeral.natural?_digits]
  rfl

/-- An exponent is read back. -/
theorem power?_signed (e : Int) : power? (Numeral.signed e) = some e := by
  unfold Numeral.signed
  split
  · have hvalue : -(e.natAbs : Int) = e := by omega
    rw [power?_cons_digits, hvalue]
  · have hvalue : (e.natAbs : Int) = e := by omega
    rw [power?_digits, hvalue]

/-- The text of an exponent, if there is one. -/
def renderExponent : Option Int → List Char
  | none => []
  | some e => 'e' :: Numeral.signed e

theorem exponent?_renderExponent (exponent : Option Int) :
    exponent? (renderExponent exponent) = some exponent := by
  cases exponent with
  | none => rfl
  | some e => simp [renderExponent, exponent?, power?_signed]

theorem isDigit_of_mem_head?_renderExponent {exponent : Option Int} {c : Char}
    (h : c ∈ (renderExponent exponent).head?) : c.isDigit = false := by
  cases exponent with
  | none => cases h
  | some e =>
    obtain rfl : 'e' = c := Option.some.inj h
    decide

/-- The text of a fraction with its point, if there is one. -/
def renderFraction (fraction : List Char) : List Char :=
  if fraction = [] then [] else '.' :: fraction

/-- A fraction is read back up to what follows it. -/
theorem fraction?_renderFraction {fraction : List Char} (h : ∀ c ∈ fraction, c.isDigit)
    (exponent : Option Int) :
    fraction? (renderFraction fraction ++ renderExponent exponent) =
      some (fraction, renderExponent exponent) := by
  have hrest : ∀ c ∈ (renderExponent exponent).head?, c.isDigit = false :=
    fun _ => isDigit_of_mem_head?_renderExponent
  obtain ⟨htake, hdrop⟩ := span_append h hrest
  unfold renderFraction
  split
  · rename_i hnil
    subst hnil
    cases exponent <;> rfl
  · rename_i hne
    simp only [List.cons_append, fraction?, htake, hdrop, if_neg hne]

/-- A number without its sign is read back. -/
theorem IsProper.unsigned? {d : Decimal} (h : d.IsProper) :
    unsigned? d.negative
      (d.whole ++ (renderFraction d.fraction ++ renderExponent d.exponent)) = some d := by
  have hrest : ∀ c ∈ (renderFraction d.fraction ++ renderExponent d.exponent).head?,
      c.isDigit = false := by
    intro c hc
    unfold renderFraction at hc
    split at hc
    · exact isDigit_of_mem_head?_renderExponent hc
    · obtain rfl : '.' = c := Option.some.inj hc
      decide
  obtain ⟨htake, hdrop⟩ := span_append h.whole_digits hrest
  simp only [Decimal.unsigned?, htake, hdrop, fraction?_renderFraction h.fraction_digits,
    exponent?_renderExponent, Option.bind_eq_bind, Option.bind_some, if_pos h.whole]

theorem IsProper.exists_whole_eq {d : Decimal} (h : d.IsProper) :
    ∃ c rest, d.whole = c :: rest ∧ c.isDigit := by
  have hne : d.whole ≠ [] := by
    intro hnil
    have hwhole := h.whole
    rw [hnil] at hwhole
    exact absurd hwhole (by decide)
  obtain ⟨c, rest, hcons⟩ := List.exists_cons_of_ne_nil hne
  exact ⟨c, rest, hcons, h.whole_digits c (hcons ▸ List.mem_cons_self)⟩

/-- A number is read back as it is written. -/
theorem IsProper.ofChars?_render {d : Decimal} (h : d.IsProper) : ofChars? d.render = some d := by
  have hrender : d.render = (if d.negative then ['-'] else []) ++
      (d.whole ++ (renderFraction d.fraction ++ renderExponent d.exponent)) := by
    unfold render
    cases d.exponent <;> simp [renderFraction, renderExponent]
  have hread := h.unsigned?
  rw [hrender]
  cases hsign : d.negative with
  | true => rwa [hsign] at hread
  | false =>
    rw [hsign] at hread
    obtain ⟨c, rest, hcons, hdigit⟩ := h.exists_whole_eq
    rw [if_neg Bool.false_ne_true, List.nil_append]
    unfold ofChars?
    split
    · rename_i hminus
      rw [hcons] at hminus
      obtain rfl := List.head_eq_of_cons_eq hminus
      exact absurd hdigit (by decide)
    · exact hread

/-! ## Whole numbers -/

theorem isProper_ofInt (i : Int) : (ofInt i).IsProper where
  whole := by
    have hne := Numeral.digits_ne_nil i.natAbs
    by_cases hzero : i.natAbs = 0
    · have hdigits : Numeral.digits 0 = ['0'] := by decide
      simp [isWhole, ofInt, hzero, hdigits]
    · simp [isWhole, ofInt, hne, Numeral.head?_digits_ne_zero hzero]
  whole_digits := fun _ => Numeral.isDigit_of_mem_digits
  fraction_digits := List.forall_mem_nil _

/-- A whole number is the value of its number. -/
theorem toInt?_ofInt (i : Int) : (ofInt i).toInt? = some i := by
  have hwhole : ¬ ((ofInt i).fraction ≠ [] ∨ (ofInt i).exponent ≠ none) := by simp [ofInt]
  rw [toInt?, if_neg hwhole]
  simp only [ofInt, Numeral.ofDigitChars_digits, decide_eq_true_eq]
  by_cases hneg : i < 0
  · have hvalue : -(i.natAbs : Int) = i := by omega
    rw [if_pos hneg, if_neg (by omega), hvalue]
  · have hvalue : (i.natAbs : Int) = i := by omega
    rw [if_neg hneg, hvalue]

theorem le_ofDigitChars (digits : List Char) (significand : Nat) :
    significand ≤ Nat.ofDigitChars 10 digits significand := by
  have hpos : 0 < 10 ^ digits.length := Nat.pow_pos (by decide)
  have hle := Nat.le_mul_of_pos_left significand hpos
  rw [Nat.ofDigitChars_eq_ofDigitChars_zero]
  omega

/-- The significand takes all digits if it can hold their value. -/
theorem gather_of_lt {significand : Nat} {digits : List Char}
    (h : Nat.ofDigitChars 10 digits significand < UInt64.size) :
    (gather significand digits).2 = digits.length := by
  induction digits generalizing significand with
  | nil => rfl
  | cons d ds ih =>
    rw [Nat.ofDigitChars_cons, Nat.mul_comm] at h
    have hnext := Nat.lt_of_le_of_lt (le_ofDigitChars ds _) h
    simp only [gather, if_pos hnext, ih h, List.length_cons]

/-- A double can hold a whole number that fits the significand. -/
theorem isFinite_ofInt {i : Int} (h : i.natAbs < UInt64.size) : (ofInt i).isFinite := by
  have hcount : (gather 0 (Numeral.digits i.natAbs)).2 = (Numeral.digits i.natAbs).length :=
    gather_of_lt (by rwa [Numeral.ofDigitChars_digits])
  simp [isFinite, ofInt, hcount, gather, inRange]

end Decimal
end Cgroup.Json
