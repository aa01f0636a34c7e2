import Cgroup.Json.Quoted
import Cgroup.Json.Value

/-!
# JSON tokens

A text is a sequence of tokens with spaces between them: punctuation, strings and words. A word is
a longest run of the characters that numbers and the three literals are made of; since two values
never stand side by side in JSON, no valid text is cut in the wrong place.
-/

namespace Cgroup.Json

/-- A token of JSON text. -/
inductive Token where
  | beginArray
  | endArray
  | beginObject
  | endObject
  | colon
  | comma
  /-- A value without parts. -/
  | atom (value : Value)

namespace Token

/-- The characters between tokens. -/
def isSpace (c : Char) : Bool :=
  c = ' ' || c = '\t' || c = '\n' || c = '\r'

/-- The tokens of one character. -/
def punctuation? : Char → Option Token
  | '[' => some .beginArray
  | ']' => some .endArray
  | '\x7b' => some .beginObject
  | '\x7d' => some .endObject
  | ':' => some .colon
  | ',' => some .comma
  | _ => none

/-- The characters of words. -/
def isWordChar (c : Char) : Bool :=
  c.isAlphanum || c = '+' || c = '-' || c = '.'

/-- The value that a word stands for: a literal, or a number that a double can hold. -/
def ofWord? (word : List Char) : Option Value :=
  if word = "null".toList then some .null
  else if word = "true".toList then some (.bool true)
  else if word = "false".toList then some (.bool false)
  else (Decimal.ofChars? word).bind fun d => if d.isFinite then some (.number d) else none

end Token

open Token in
/-- The tokens of a text. -/
def tokens? (t : List Char) : Option (List Token) :=
  match t with
  | [] => some []
  | c :: rest =>
    if isSpace c then tokens? rest
    else if c = '"' then
      match _h : unquote? rest with
      | none => none
      | some (s, rest') => (tokens? rest').map (.atom (.string (String.ofList s)) :: ·)
    else
      match punctuation? c with
      | some token => (tokens? rest).map (token :: ·)
      | none =>
        match ofWord? (c :: rest.takeWhile isWordChar) with
        | none => none
        | some value => (tokens? (rest.dropWhile isWordChar)).map (.atom value :: ·)
termination_by t.length
decreasing_by
  · simp
  · exact Nat.lt_succ_of_le (length_le_of_unquote? _h)
  · simp
  · exact Nat.lt_succ_of_le (List.dropWhile_sublist _).length_le

end Cgroup.Json
