import ResourceInference.Data.Value
import ResourceInference.SortedMap

/-!
# Document trees

What a reader of JSON or YAML text hands on. It is a data value, but for three things that are
still open: an object may repeat a key, a plain YAML scalar has no type yet (`version: 1.0` is a
number or a text, as its reader wants it), and a YAML node may carry a tag.
-/

set_option autoImplicit false

namespace ResourceInference

/-- A tree as a text spells it. -/
inductive Node where
  | null
  | bool (b : Bool)
  | number (n : Number)
  | string (s : String)
  /-- A scalar that is written without quotes and has no type of its own. -/
  | plain (text : String)
  | list (items : List Node)
  | mapping (entries : List (Node × Node))
  | tagged (tag : String) (node : Node)
  deriving Inhabited

namespace Node

mutual

/-- The tree of a data value. -/
def ofValue : Value → Node
  | .null => null
  | .bool b => bool b
  | .number n => number n
  | .string s => string s
  | .list items => list (ofItems items)
  | .object entries => mapping (ofEntries entries)

/-- The trees of the items of a list. -/
def ofItems : List Value → List Node
  | [] => []
  | item :: rest => ofValue item :: ofItems rest

/-- The trees of the entries of an object. -/
def ofEntries : List (String × Value) → List (Node × Node)
  | [] => []
  | (key, value) :: rest => (string key, ofValue value) :: ofEntries rest

end

theorem ofItems_eq (items : List Value) : ofItems items = items.map ofValue := by
  induction items with
  | nil => rfl
  | cons item rest ih => simp [ofItems, ih]

end Node

end ResourceInference
