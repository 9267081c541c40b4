/-!
# The journal of inference

What happens while schemas are resolved: references to components are met, components are entered
and left, objects are formed, types are merged, dropped and moved. A session writes it down, latest
first, and nothing is decided by it. It is kept so that a run can be spoken of: which components
were under construction when something happened, which members an object got, and where a type has
gone.
-/

set_option autoImplicit false

namespace ResourceInference

/-- What happens to tokens and objects. -/
inductive Event where
  /-- A reference to a component is met; the answer is the token. -/
  | referred (component token : String)
  /-- A component is entered: the type for the token is under construction. -/
  | entered (token : String)
  /-- The component of the token is left: its type is registered. -/
  | left (token : String)
  /-- The members of an object are made: the wire names that it requires, and the SDK names of the
  members. -/
  | formed (required members : List String)
  /-- The type of the token is merged into an object or a resource. -/
  | merged (token : String)
  /-- The type of the token is dropped again. -/
  | dropped (token : String)
  /-- The type of a token is put under another one. -/
  | moved (source target : String)
  deriving DecidableEq, Repr

end ResourceInference
