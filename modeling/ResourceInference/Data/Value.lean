import ResourceInference.Data.Number

/-!
# Data values

The values that JSON and YAML texts denote. The entries of an object are in the order in which
they are written. `Value.same` compares by value: numbers as `Number.same` does, objects entry by
entry.
-/

set_option autoImplicit false

namespace ResourceInference

/-- A value of a data format. -/
inductive Value where
  | null
  | bool (b : Bool)
  | number (n : Number)
  | string (s : String)
  | list (items : List Value)
  | object (entries : List (String × Value))
  deriving Repr, Inhabited

namespace Value

mutual

/-- Whether two values are the same data. -/
def same : Value → Value → Bool
  | null, null => true
  | bool a, bool b => a == b
  | number a, number b => a.same b
  | string a, string b => a == b
  | list a, list b => sameItems a b
  | object a, object b => sameEntries a b
  | _, _ => false

/-- Whether two lists hold the same data. -/
def sameItems : List Value → List Value → Bool
  | [], [] => true
  | a :: as, b :: bs => same a b && sameItems as bs
  | _, _ => false

/-- Whether two objects hold the same data under the same keys in the same order. -/
def sameEntries : List (String × Value) → List (String × Value) → Bool
  | [], [] => true
  | (k, a) :: as, (l, b) :: bs => k == l && same a b && sameEntries as bs
  | _, _ => false

end

/-- The value of a boolean, if it is one. -/
def bool? : Value → Option Bool
  | bool b => some b
  | _ => none

/-- An object of the entries that are present. -/
def record (entries : List (Option (String × Value))) : Value := object (entries.filterMap id)

/-- An entry that is always written. -/
def entry (key : String) (value : Value) : Option (String × Value) := some (key, value)

/-- An entry that is written if it has a value. -/
def entry? {α : Type} (key : String) (encode : α → Value) (value : Option α) :
    Option (String × Value) :=
  value.map fun v => (key, encode v)

/-- An entry that is written unless the condition holds. -/
def entryUnless (absent : Bool) (key : String) (value : Value) : Option (String × Value) :=
  if absent then none else some (key, value)

/-- A list of texts. -/
def strings (texts : List String) : Value := list (texts.map string)

end Value

end ResourceInference
