import ResourceInference.Data.Node
import ResourceInference.Json.Lexer

/-!
# Reading JSON

A text is read token by token with a stack of the lists and objects that are still open. At most
127 of them may be open at once.
-/

set_option autoImplicit false

namespace ResourceInference.Json

/-- A list or an object that is still open, its parts last first. -/
inductive Frame where
  | list (items : List Node)
  /-- An object, between two entries. -/
  | object (entries : List (Node × Node))
  /-- An object, after the key of an entry. -/
  | entry (entries : List (Node × Node)) (key : Node)

/-- What may come next. -/
inductive Expect where
  /-- A value. -/
  | value
  /-- A value, or the end of a list that has just been opened. -/
  | itemOrEnd
  /-- A key, or the end of an object that has just been opened. -/
  | keyOrEnd
  /-- A key. -/
  | key
  /-- The colon after a key. -/
  | colon
  /-- What follows a value in the innermost list or object, or the end of the text. -/
  | after

/-- The most lists and objects that may be open at once. -/
def depthLimit : Nat := 127

/-- The state of a reader. -/
structure Reader where
  frames : List Frame
  expect : Expect
  /-- The value of the whole text, once it is complete. -/
  done : Option Node

/-- The state before the first token. -/
def Reader.initial : Reader := ⟨[], .value, none⟩

/-- Take a complete value. -/
def Reader.complete (frames : List Frame) (node : Node) : Reader :=
  match frames with
  | [] => ⟨[], .after, some node⟩
  | .list items :: rest => ⟨.list (node :: items) :: rest, .after, none⟩
  | .entry entries key :: rest => ⟨.object ((key, node) :: entries) :: rest, .after, none⟩
  | .object entries :: rest => ⟨.object entries :: rest, .after, none⟩

/-- Open a list or an object. -/
def Reader.push (frames : List Frame) (frame : Frame) (expect : Expect) :
    Except ReadError Reader :=
  if frames.length < depthLimit then .ok ⟨frame :: frames, expect, none⟩ else .error .malformed

/-- The node of a scalar. -/
def Literal.node : Literal → Node
  | .null => .null
  | .bool b => .bool b
  | .number n => .number n

/-- Take a token where a value may stand. -/
def Reader.value (frames : List Frame) : Token → Except ReadError Reader
  | .openList => Reader.push frames (.list []) .itemOrEnd
  | .openObject => Reader.push frames (.object []) .keyOrEnd
  | .literal value => .ok (Reader.complete frames value.node)
  | .string s => .ok (Reader.complete frames (.string s))
  | .broken _ cause => .error cause
  | _ => .error .malformed

/-- Take a token where a key may stand. -/
def Reader.key (frames : List Frame) : Token → Except ReadError Reader
  | .string s =>
    match frames with
    | .object entries :: rest => .ok ⟨.entry entries (.string s) :: rest, .colon, none⟩
    | _ => .error .malformed
  | .broken true cause => .error cause
  | _ => .error .malformed

/-- Take a token. -/
def Reader.step (r : Reader) (token : Token) : Except ReadError Reader :=
  match r.expect, token, r.frames with
  | .value, _, frames => Reader.value frames token
  | .itemOrEnd, .closeList, .list _ :: rest => .ok (Reader.complete rest (.list []))
  | .itemOrEnd, _, frames => Reader.value frames token
  | .keyOrEnd, .closeObject, .object _ :: rest => .ok (Reader.complete rest (.mapping []))
  | .keyOrEnd, _, frames => Reader.key frames token
  | .key, _, frames => Reader.key frames token
  | .colon, .colon, frames => .ok ⟨frames, .value, none⟩
  | .after, .comma, .list items :: rest => .ok ⟨.list items :: rest, .value, none⟩
  | .after, .closeList, .list items :: rest =>
    .ok (Reader.complete rest (.list items.reverse))
  | .after, .comma, .object entries :: rest => .ok ⟨.object entries :: rest, .key, none⟩
  | .after, .closeObject, .object entries :: rest =>
    .ok (Reader.complete rest (.mapping entries.reverse))
  | _, _, _ => .error .malformed

/-- Take the tokens of a text to its end. -/
def Reader.run (r : Reader) : List Token → Except ReadError Node
  | [] => match r.done with
    | some node => .ok node
    | none => .error .truncated
  | token :: rest => do (← r.step token).run rest

/-- The tree of a JSON text. -/
def read (text : String) : Except ReadError Node :=
  Reader.initial.run (tokens .between text.toList)

end ResourceInference.Json
