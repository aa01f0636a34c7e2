import Cgroup.Json.Decimal
import Cgroup.Json.Quoted

/-!
# JSON values

A value keeps the members of an object in the order of the text, repeated keys included, because
what a repeated key means is for the reader of the object to decide. `print` writes it in its most
compact form, without spaces.
-/

namespace Cgroup.Json

/-- A JSON value. -/
inductive Value where
  | null
  | bool (b : Bool)
  | number (d : Decimal)
  | string (s : String)
  | array (items : List Value)
  | object (members : List (String × Value))

namespace Value

/-- The value of the only member with a key; nothing if there is no such member or more than
one. -/
def only? (members : List (String × Value)) (key : String) : Option Value :=
  match members.filter (·.1 = key) with
  | [(_, value)] => some value
  | _ => none

/-- The text of a string value. -/
def string? : Value → Option String
  | string s => some s
  | _ => none

/-- The value of a number that is written as a whole number of 32 bits. -/
def int32? : Value → Option Int32
  | number d => d.toInt?.bind Numeral.toInt32?
  | _ => none

/-! ## Writing -/

mutual

/-- The text of a value. -/
def render : Value → List Char
  | null => "null".toList
  | bool true => "true".toList
  | bool false => "false".toList
  | number d => d.render
  | string s => quote s.toList
  | array [] => "[]".toList
  | array (v :: items) => '[' :: render v ++ renderItems items
  | object [] => "\x7b\x7d".toList
  | object ((key, v) :: members) =>
    '\x7b' :: quote key.toList ++ ':' :: render v ++ renderMembers members

/-- The text of the items of an array after the first, and its end. -/
def renderItems : List Value → List Char
  | [] => [']']
  | v :: items => ',' :: render v ++ renderItems items

/-- The text of the members of an object after the first, and its end. -/
def renderMembers : List (String × Value) → List Char
  | [] => ['\x7d']
  | (key, v) :: members => ',' :: quote key.toList ++ ':' :: render v ++ renderMembers members

end

/-- The compact text of a value. -/
def print (v : Value) : String :=
  String.ofList v.render

end Value
end Cgroup.Json
