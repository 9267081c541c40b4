import ResourceInference.Provider.ObjectType

/-!
# Tables beside the package

What a running provider looks up: the paths that serve each token, the properties that name
resources, and the names that differ between wire and SDK.

Every table is filled by single assignment (`assign`): a key keeps the first value it was given,
giving it again changes nothing, and giving it another value fails.
-/

set_option autoImplicit false

namespace ResourceInference

/-! ## Single assignment -/

/-- Give a key its value. Fails with the value that the key has, if that is another one. -/
def assign (table : SortedMap String) (key value : String) : Except String (SortedMap String) :=
  match table.get? key with
  | some existing => if existing = value then .ok table else .error existing
  | none => .ok (table.insert key value)

/-! ## Paths of operations -/

/-- What an operation does to the thing that a token names. -/
inductive CrudSlot where
  | create
  | read
  | update
  | delete
  | put
  deriving DecidableEq, Repr

/-- The name of a slot. -/
def CrudSlot.name : CrudSlot → String
  | .create => "create"
  | .read => "read"
  | .update => "update"
  | .delete => "delete"
  | .put => "put"

/-- The path that serves each slot of one token. -/
structure CrudPaths where
  create : Option String := none
  read : Option String := none
  update : Option String := none
  delete : Option String := none
  put : Option String := none
  deriving DecidableEq, Repr

namespace CrudPaths

/-- The path in a slot. -/
def get? (paths : CrudPaths) : CrudSlot → Option String
  | .create => paths.create
  | .read => paths.read
  | .update => paths.update
  | .delete => paths.delete
  | .put => paths.put

/-- Fill a slot, whatever it held. -/
def set (paths : CrudPaths) (slot : CrudSlot) (path : String) : CrudPaths :=
  match slot with
  | .create => { paths with create := some path }
  | .read => { paths with read := some path }
  | .update => { paths with update := some path }
  | .delete => { paths with delete := some path }
  | .put => { paths with put := some path }

/-- Give a slot its path. Fails with the path that the slot has, if that is another one. -/
def seat (paths : CrudPaths) (slot : CrudSlot) (path : String) : Except String CrudPaths :=
  match paths.get? slot with
  | some existing => if existing = path then .ok paths else .error existing
  | none => .ok (paths.set slot path)

/-- The paths as data, under one letter a slot. -/
def encode (paths : CrudPaths) : Value :=
  .record [
    Value.entry? "c" Value.string paths.create,
    Value.entry? "r" Value.string paths.read,
    Value.entry? "u" Value.string paths.update,
    Value.entry? "d" Value.string paths.delete,
    Value.entry? "p" Value.string paths.put]

end CrudPaths

/-! ## All tables -/

/-- The tables beside a package. -/
structure Metadata where
  crud : SortedMap CrudPaths := ∅
  /-- The property of a resource that gets a generated name. -/
  autoNames : SortedMap String := ∅
  /-- Wire names by SDK name, where the two differ. -/
  wireNames : SortedMap String := ∅
  /-- SDK names by wire name, where the two differ. -/
  sdkNames : SortedMap String := ∅
  /-- SDK names of path parameters by wire name, where the two differ. -/
  pathParameters : SortedMap String := ∅
  /-- The namespace of each module. -/
  moduleNamespaces : SortedMap String := ∅

/-- The tables as data. -/
def Metadata.encode (m : Metadata) : Value :=
  .object [
    ("crudMap", m.crud.encode CrudPaths.encode),
    ("autoNameMap", m.autoNames.encode Value.string),
    ("sdkToApiNameMap", m.wireNames.encode Value.string),
    ("apiToSdkNameMap", m.sdkNames.encode Value.string),
    ("pathParamNameMap", m.pathParameters.encode Value.string),
    ("moduleNamespaces", m.moduleNamespaces.encode Value.string)]

end ResourceInference
