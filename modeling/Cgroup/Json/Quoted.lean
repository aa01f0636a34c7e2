/-!
# Strings in JSON

Writing a string escapes the quote, the backslash and the controls below the space, and nothing
else. Reading accepts every escape of the format; a surrogate has to come with its partner, and a
control may not stand as it is. `unquote?_flatMap_escape` says that a string is read back from what
is written.
-/

namespace Cgroup.Json

/-- A character as a string writes it. -/
def escape (c : Char) : List Char :=
  match c with
  | '"' => ['\\', '"']
  | '\\' => ['\\', '\\']
  | '\x08' => ['\\', 'b']
  | '\x0c' => ['\\', 'f']
  | '\n' => ['\\', 'n']
  | '\r' => ['\\', 'r']
  | '\t' => ['\\', 't']
  | _ =>
    if c.toNat < 0x20 then
      ['\\', 'u', '0', '0', Nat.digitChar (c.toNat / 16), Nat.digitChar (c.toNat % 16)]
    else [c]

/-- A string between its quotes. -/
def quote (s : List Char) : List Char :=
  '"' :: s.flatMap escape ++ ['"']

/-- The character that a letter after a backslash stands for. -/
def ofLetter? : Char → Option Char
  | '"' => some '"'
  | '\\' => some '\\'
  | '/' => some '/'
  | 'b' => some '\x08'
  | 'f' => some '\x0c'
  | 'n' => some '\n'
  | 'r' => some '\r'
  | 't' => some '\t'
  | _ => none

/-- The value of a hexadecimal digit. -/
def hexDigit? (c : Char) : Option Nat :=
  if c.isDigit then some (c.toNat - '0'.toNat)
  else if 'a' ≤ c ∧ c ≤ 'f' then some (c.toNat - 'a'.toNat + 10)
  else if 'A' ≤ c ∧ c ≤ 'F' then some (c.toNat - 'A'.toNat + 10)
  else none

/-- The value of four hexadecimal digits. -/
def hexUnit? (a b c d : Char) : Option Nat := do
  return (((← hexDigit? a) * 16 + (← hexDigit? b)) * 16 + (← hexDigit? c)) * 16 + (← hexDigit? d)

/-- The units that begin a pair. -/
def isHighUnit (unit : Nat) : Bool := 0xd800 ≤ unit && unit < 0xdc00

/-- The units that end a pair. -/
def isLowUnit (unit : Nat) : Bool := 0xdc00 ≤ unit && unit < 0xe000

/-- The character of a pair of units. -/
def ofPair (high low : Nat) : Char :=
  Char.ofNat (0x10000 + (high - 0xd800) * 0x400 + (low - 0xdc00))

/-- Reads four hexadecimal digits. -/
def unit? : List Char → Option (Nat × List Char)
  | a :: b :: c :: d :: rest => (hexUnit? a b c d).map fun unit => (unit, rest)
  | _ => none

/-- Reads the character whose units follow `\u`, and the partner of a unit that needs one. -/
def codePoint? (t : List Char) : Option (Char × List Char) :=
  match unit? t with
  | none => none
  | some (unit, rest) =>
    if isHighUnit unit then
      match rest with
      | '\\' :: 'u' :: rest =>
        match unit? rest with
        | none => none
        | some (low, rest) => if isLowUnit low then some (ofPair unit low, rest) else none
      | _ => none
    else if isLowUnit unit then none
    else some (Char.ofNat unit, rest)

/-- Reads what follows a backslash. -/
def escaped? : List Char → Option (Char × List Char)
  | [] => none
  | letter :: rest =>
    if letter = 'u' then codePoint? rest else (ofLetter? letter).map fun c => (c, rest)

/-- Reads one character inside a string. -/
def char? : List Char → Option (Char × List Char)
  | [] => none
  | c :: rest =>
    if c = '\\' then escaped? rest
    else if c = '"' ∨ c.toNat < 0x20 then none
    else some (c, rest)

theorem length_lt_of_unit? {t rest : List Char} {unit : Nat} (h : unit? t = some (unit, rest)) :
    rest.length < t.length := by
  unfold unit? at h
  split at h
  · obtain ⟨_, -, he⟩ := Option.map_eq_some_iff.1 h
    simp only [Prod.mk.injEq] at he
    simp only [List.length_cons, ← he.2]
    omega
  · simp at h

theorem length_lt_of_codePoint? {t rest : List Char} {c : Char}
    (h : codePoint? t = some (c, rest)) : rest.length < t.length := by
  unfold codePoint? at h
  split at h
  · simp at h
  · rename_i unit r hr
    have h₁ := length_lt_of_unit? hr
    split at h
    · split at h
      · split at h
        · simp at h
        · rename_i low r' hr'
          have h₂ := length_lt_of_unit? hr'
          simp only [List.length_cons] at h₁
          grind
      · simp at h
    · grind

/-- What follows a character of a string is shorter than the text. -/
theorem length_lt_of_char? {t rest : List Char} {c : Char} (h : char? t = some (c, rest)) :
    rest.length < t.length := by
  cases t with
  | nil => simp [char?] at h
  | cons x t =>
    simp only [char?] at h
    split at h
    · cases t with
      | nil => simp [escaped?] at h
      | cons y t =>
        simp only [escaped?] at h
        split at h
        · have := length_lt_of_codePoint? h
          simp only [List.length_cons]
          omega
        · obtain ⟨_, -, he⟩ := Option.map_eq_some_iff.1 h
          simp only [Prod.mk.injEq] at he
          simp only [List.length_cons, ← he.2]
          omega
    · grind

/-- Reads a string behind its opening quote: its characters, and what follows the closing quote. -/
def unquote? (t : List Char) : Option (List Char × List Char) :=
  if t.head? = some '"' then some ([], t.tail)
  else
    match _h : char? t with
    | none => none
    | some (c, rest) => (unquote? rest).map fun (s, rest) => (c :: s, rest)
termination_by t.length
decreasing_by exact length_lt_of_char? _h

/-- What follows a string is not longer than the text. -/
theorem length_le_of_unquote? {t s rest : List Char} (h : unquote? t = some (s, rest)) :
    rest.length ≤ t.length := by
  fun_induction unquote? t generalizing s rest with
  | case1 t ht =>
    simp only [Option.some.injEq, Prod.mk.injEq] at h
    simp [← h.2]
  | case2 => simp at h
  | case3 t ht c r hc ih =>
    obtain ⟨⟨s', r'⟩, hs, he⟩ := Option.map_eq_some_iff.1 h
    simp only [Prod.mk.injEq] at he
    have := ih hs
    have := length_lt_of_char? hc
    grind

/-! ## Reading what was written -/

/-- A hexadecimal digit has the value that it was written for. -/
theorem hexDigit?_digitChar : ∀ n < 16, hexDigit? (Nat.digitChar n) = some n := by decide

/-- A character is read back from its escape. -/
theorem char?_escape (c : Char) (t : List Char) : char? (escape c ++ t) = some (c, t) := by
  unfold escape
  split
  case h_8 h₁ h₂ _ _ _ _ _ =>
    split
    · rename_i hlow
      have hhigh := hexDigit?_digitChar (c.toNat / 16) (by omega)
      have hrest := hexDigit?_digitChar (c.toNat % 16) (by omega)
      have hzero : hexDigit? '0' = some 0 := by decide
      have hvalue : c.toNat / 16 * 16 + c.toNat % 16 = c.toNat := by omega
      have hnone : isHighUnit c.toNat = false ∧ isLowUnit c.toNat = false := by
        simp only [isHighUnit, isLowUnit, Bool.and_eq_false_iff, decide_eq_false_iff_not]
        omega
      simp [char?, escaped?, codePoint?, unit?, hexUnit?, hhigh, hrest, hzero, hvalue, hnone]
    · rename_i hlow
      have hc : c ≠ '\\' ∧ c ≠ '"' := ⟨h₂, h₁⟩
      simp [char?, hc, hlow]
  all_goals rfl

/-- No escape begins with a quote. -/
theorem head?_escape_append (c : Char) (t : List Char) : (escape c ++ t).head? ≠ some '"' := by
  unfold escape
  split
  case h_8 h₁ _ _ _ _ _ _ =>
    have hc : c ≠ '"' := h₁
    split <;> simp [hc]
  all_goals simp

/-- A string is read back from its escapes, up to the quote behind it. -/
theorem unquote?_flatMap_escape (s rest : List Char) :
    unquote? (s.flatMap escape ++ '"' :: rest) = some (s, rest) := by
  induction s with
  | nil =>
    rw [unquote?]
    simp
  | cons c s ih =>
    have hquote := head?_escape_append c (s.flatMap escape ++ '"' :: rest)
    rw [List.flatMap_cons, List.append_assoc, unquote?, if_neg hquote]
    split
    · rename_i hnone
      simp [char?_escape] at hnone
    · rename_i hsome
      rw [char?_escape] at hsome
      cases hsome
      simp [ih]

end Cgroup.Json
