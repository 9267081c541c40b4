/-!
# HTTP methods of operations

The five methods whose operations take part in inference, in the order in which a path item lists
them.
-/

set_option autoImplicit false

namespace ResourceInference

/-- A method that an operation answers. -/
inductive Method where
  | get
  | post
  | put
  | patch
  | delete
  deriving DecidableEq, Repr

namespace Method

/-- All methods, in listing order. -/
def all : List Method := [get, post, put, patch, delete]

theorem mem_all (method : Method) : method ∈ all := by
  cases method <;> simp [all]

/-- The name of the method on the wire. -/
def name : Method → String
  | get => "GET"
  | post => "POST"
  | put => "PUT"
  | patch => "PATCH"
  | delete => "DELETE"

/-- The key of the method in a path item, and the way messages write it. -/
def key : Method → String
  | get => "get"
  | post => "post"
  | put => "put"
  | patch => "patch"
  | delete => "delete"

end Method

end ResourceInference
