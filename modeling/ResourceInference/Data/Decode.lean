import ResourceInference.Data.Entries
import ResourceInference.Data.Node
import ResourceInference.Yaml.Plain

/-!
# Decoding document trees

A tree is decoded in one of three ways. JSON has strings in quotes only. A YAML scalar at a place
that wants a text is its own text, whatever it looks like, and nothing at all stands for an empty
list or mapping. Where alternatives have to be told apart, every scalar gets its own type first,
and what it looks like counts (`Reading.typed`).

A record may be written as a mapping or, except in YAML, as the list of its fields in the order of
their declaration.
-/

set_option autoImplicit false

namespace ResourceInference

/-- How the scalars of a tree are taken. -/
inductive Reading where
  | json
  | yaml
  /-- Every scalar by its own type. -/
  | typed
  deriving DecidableEq, Repr

/-- Why a tree does not decode. -/
inductive DecodeError where
  /-- The tree has not the shape that is asked for. -/
  | shape
  /-- A JSON list goes on after the last field of the record that it spells. -/
  | surplus
  deriving DecidableEq, Repr

namespace Decode

/-- The result of decoding. -/
abbrev Result (α : Type) := Except DecodeError α

/-- The tag of a core type. -/
def coreTag (name : String) : String := "tag:yaml.org,2002:" ++ name

/-- Whether a tag belongs to the document and not to YAML. -/
def isLocalTag (tag : String) : Bool := tag.toList.head? == some '!'

/-- The text of a scalar, quoted or plain. -/
def scalarText? : Node → Option String
  | .string s => some s
  | .plain s => some s
  | _ => none

/-- The data value of a plain scalar. What is not finite is null. -/
def plainValue (s : String) : Result Value :=
  match Yaml.plainKind s with
  | .null => .ok .null
  | .bool b => .ok (.bool b)
  | .number n => .ok (.number n)
  | .nonFinite => .ok .null
  | .oversized => .error .shape
  | .text => .ok (.string s)

/-- The data value of a scalar under the tag of a core type. -/
def taggedScalar (tag s : String) : Result Value :=
  if tag = coreTag "bool" then
    match Yaml.boolWord? s with
    | some b => .ok (.bool b)
    | none => .error .shape
  else if tag = coreTag "int" then
    match (Yaml.integer? s.toList).bind Yaml.integerKind? with
    | some (.number n) => .ok (.number n)
    | _ => .error .shape
  else if tag = coreTag "float" then
    if Yaml.isNonFiniteWord s then .ok .null
    else match Yaml.float? s.toList with
      | some x => .ok (.number (.ofFloat x))
      | none => .error .shape
  else if tag = coreTag "null" then
    if Yaml.isNullWord s then .ok .null else .error .shape
  else .ok (.string s)

/-- The text of a scalar. -/
def text (reading : Reading) : Node → Result String
  | .string s => .ok s
  | .plain s =>
    match reading with
    | .yaml => .ok s
    | _ => if Yaml.plainKind s = .text then .ok s else .error .shape
  | .tagged tag node =>
    match reading, scalarText? node with
    | .yaml, some s => .ok s
    | _, some s =>
      if isLocalTag tag then .error .shape
      else match taggedScalar tag s with
        | .ok (.string s) => .ok s
        | _ => .error .shape
    | _, none => .error .shape
  | _ => .error .shape

/-- A truth value. -/
def bool : Node → Result Bool
  | .bool b => .ok b
  | .plain s =>
    match Yaml.boolWord? s with
    | some b => .ok b
    | none => .error .shape
  | .tagged tag (.plain s) =>
    if isLocalTag tag then .error .shape
    else match Yaml.boolWord? s with
      | some b => .ok b
      | none => .error .shape
  | _ => .error .shape

/-- Whether a tree says that something optional is absent. -/
def isAbsent : Node → Bool
  | .null => true
  | .plain s => s.isEmpty || Yaml.isNullWord s
  | .tagged tag (.plain s) => tag = coreTag "null" && Yaml.isNullWord s
  | _ => false

/-- Something that may be absent. -/
def optional {α : Type} (decode : Node → Result α) (node : Node) : Result (Option α) :=
  if isAbsent node then .ok none else some <$> decode node

/-- The items of a list. -/
def items (reading : Reading) : Node → Result (List Node)
  | .list nodes => .ok nodes
  | .plain s => if reading = .yaml ∧ s.isEmpty then .ok [] else .error .shape
  | .tagged tag (.list nodes) =>
    if reading ≠ .yaml ∧ isLocalTag tag then .error .shape else .ok nodes
  | _ => .error .shape

/-- The entries of a mapping, keys still undecoded. -/
def pairs (reading : Reading) : Node → Result (List (Node × Node))
  | .mapping entries => .ok entries
  | .plain s => if reading = .yaml ∧ s.isEmpty then .ok [] else .error .shape
  | .tagged tag (.mapping entries) =>
    if reading ≠ .yaml ∧ isLocalTag tag then .error .shape else .ok entries
  | _ => .error .shape

/-- A list. -/
def list {α : Type} (reading : Reading) (decode : Node → Result α) (node : Node) :
    Result (List α) := do
  (← items reading node).mapM decode

/-- A mapping in the order of its keys' first appearance; the last value of a key counts. -/
def mapping {α : Type} (reading : Reading) (decode : Node → Result α) (node : Node) :
    Result (List (String × α)) := do
  (← pairs reading node).foldlM (fun entries (key, value) => do
    pure (putEntry (← text reading key) (← decode value) entries)) []

/-- A word out of a few. It may also be written as the key of a mapping to null, or in YAML as the
tag of nothing. -/
def keyword (reading : Reading) (words : List String) (node : Node) : Result String := do
  let word ← match reading, node with
    | .yaml, .tagged tag content =>
      if !isLocalTag tag then text .yaml content
      else if isAbsent content then pure (String.ofList (tag.toList.drop 1))
      else throw .shape
    | .yaml, node => text .yaml node
    | _, .mapping [(key, .null)] => text reading key
    | _, node => text reading node
  if words.contains word then pure word else throw .shape

/-! ## Records -/

/-- The fields of a record. -/
structure Fields where
  entries : List (String × Node)
  /-- Whether the record was written as a list of fields. -/
  positional : Bool
  /-- Whether such a list is longer than the record. -/
  surplus : Bool

/-- The name of a field. A key that is read by its own type may be an integer, which counts the
declared fields; it names none if it is too great. -/
def fieldName (reading : Reading) (declared : List String) (key : Node) :
    Result (Option String) :=
  match reading, key with
  | .typed, .plain s =>
    match Yaml.plainKind s with
    | .text => .ok (some s)
    | .number (.integer n) => if 0 ≤ n then .ok declared[n.toNat]? else .error .shape
    | _ => .error .shape
  | _, _ => some <$> text reading key

/-- The declared fields among the entries of a mapping. No field may come twice. -/
def declaredFields (reading : Reading) (declared : List String) :
    List (Node × Node) → Result (List (String × Node))
  | [] => .ok []
  | (key, value) :: rest => do
    let fields ← declaredFields reading declared rest
    match ← fieldName reading declared key with
    | some name =>
      if !declared.contains name then pure fields
      else if (fields.lookup name).isSome then throw .shape
      else pure ((name, value) :: fields)
    | none => pure fields

/-- The fields of a record with the declared names. -/
def fields (reading : Reading) (declared : List String) (node : Node) : Result Fields :=
  match reading, node with
  | .yaml, .list _ => .error .shape
  | _, .list nodes => .ok ⟨declared.zip nodes, true, declared.length < nodes.length⟩
  | _, node => do
    pure ⟨← declaredFields reading declared (← pairs reading node), false, false⟩

namespace Fields

/-- A field that must be there. -/
def required {α : Type} (f : Fields) (name : String) (decode : Node → Result α) : Result α :=
  match f.entries.lookup name with
  | some node => decode node
  | none => .error .shape

/-- A field that has a default. -/
def withDefault {α : Type} (f : Fields) (name : String) (decode : Node → Result α)
    (default : α) : Result α :=
  match f.entries.lookup name with
  | some node => decode node
  | none => .ok default

/-- A field that may be absent or null. In a list of fields it has to be there. -/
def optional {α : Type} (f : Fields) (name : String) (decode : Node → Result α) :
    Result (Option α) :=
  match f.entries.lookup name with
  | some node => Decode.optional decode node
  | none => if f.positional then .error .shape else .ok none

/-- Nothing may follow the last field of a record that is written as a list. -/
def close (f : Fields) (reading : Reading) : Result Unit :=
  if f.surplus then .error (if reading = .json then .surplus else .shape) else .ok ()

end Fields

/-! ## Data values -/

mutual

/-- The data value of a tree, the entries of every object in ascending order of their keys. -/
def value (reading : Reading) : Node → Result Value
  | .null => .ok .null
  | .bool b => .ok (.bool b)
  | .number n => .ok (.number n)
  | .string s => .ok (.string s)
  | .plain s => plainValue s
  | .list nodes => .list <$> values reading nodes
  | .mapping entries => .object <$> valueEntries reading [] entries
  | .tagged tag node =>
    if isLocalTag tag then .error .shape
    else match scalarText? node with
      | some s => taggedScalar tag s
      | none => value reading node

/-- The data values of the items of a list. -/
def values (reading : Reading) : List Node → Result (List Value)
  | [] => .ok []
  | node :: rest => do pure ((← value reading node) :: (← values reading rest))

/-- The data values of the entries of a mapping, put into `done` by key. -/
def valueEntries (reading : Reading) (done : List (String × Value)) :
    List (Node × Node) → Result (List (String × Value))
  | [] => .ok done
  | (key, node) :: rest => do
    let key ← text reading key
    let value ← value reading node
    valueEntries reading (insertEntry key value done) rest

end

end Decode

end ResourceInference
