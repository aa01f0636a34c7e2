import Cgroup.Json.Token

/-!
# Reading JSON

A value is read from its tokens in one pass. The reader keeps the arrays and objects that are
still open, the innermost first, and what may come next.
-/

namespace Cgroup.Json

/-- An array or object that is still open. -/
inductive Frame where
  /-- An array with the items read so far. -/
  | array (items : List Value)
  /-- An object with the members read so far, in the middle of a member with the given key. -/
  | object (members : List (String × Value)) (key : String)

/-- What a reader waits for. -/
inductive State where
  /-- A value. -/
  | value (frames : List Frame)
  /-- The first item of an array, or its end. -/
  | item (frames : List Frame)
  /-- A key of an object that has the given members, or its end if it has none. -/
  | key (frames : List Frame) (members : List (String × Value))
  /-- The colon behind a key. -/
  | colon (frames : List Frame) (members : List (String × Value)) (key : String)
  /-- What follows a value. -/
  | after (frames : List Frame) (value : Value)

namespace State

/-- The number of arrays and objects that may be open at once. -/
def depthLimit : Nat := 127

/-- The state after the first token of a value. -/
def enter (frames : List Frame) : Token → Option State
  | .atom v => some (after frames v)
  | .beginArray => if frames.length < depthLimit then some (item frames) else none
  | .beginObject => if frames.length < depthLimit then some (key frames []) else none
  | _ => none

/-- The state after a token that follows a value. -/
def leave (v : Value) : List Frame → Token → Option State
  | .array items :: frames, .comma => some (value (.array (items ++ [v]) :: frames))
  | .array items :: frames, .endArray => some (after frames (.array (items ++ [v])))
  | .object members name :: frames, .comma => some (key frames (members ++ [(name, v)]))
  | .object members name :: frames, .endObject =>
    some (after frames (.object (members ++ [(name, v)])))
  | _, _ => none

/-- The state after one more token, if the token may come here. -/
def step : State → Token → Option State
  | value frames, token => enter frames token
  | item frames, .endArray => some (after frames (.array []))
  | item frames, token => enter (.array [] :: frames) token
  | key frames [], .endObject => some (after frames (.object []))
  | key frames members, .atom (.string name) => some (colon frames members name)
  | colon frames members name, .colon => some (value (.object members name :: frames))
  | after frames v, token => leave v frames token
  | _, _ => none

/-- The value that has been read if nothing is open. -/
def result? : State → Option Value
  | after [] v => some v
  | _ => none

end State

namespace Value

/-- The value that tokens spell. -/
def ofTokens? (tokens : List Token) : Option Value :=
  (tokens.foldlM State.step (State.value [])).bind State.result?

/-- Reads a JSON text. -/
def parse? (text : String) : Option Value :=
  (tokens? text.toList).bind ofTokens?

end Value
end Cgroup.Json
