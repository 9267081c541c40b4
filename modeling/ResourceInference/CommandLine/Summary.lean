import ResourceInference.Inference.Extraction

/-!
# Summaries

What a document yields, in short: names of resources, functions and types, and the paths that
serve them. All keys are in ascending order.
-/

set_option autoImplicit false

namespace ResourceInference.CommandLine

namespace Summary

/-- A text that may be absent. -/
def optionalText (text : Option String) : Value := (text.map Value.string).getD .null

/-- The paths of a token, under one letter a slot, letters in ascending order. -/
def operations (paths : CrudPaths) : Value :=
  .record [
    Value.entry? "c" Value.string paths.create,
    Value.entry? "d" Value.string paths.delete,
    Value.entry? "p" Value.string paths.put,
    Value.entry? "r" Value.string paths.read,
    Value.entry? "u" Value.string paths.update]

/-- A resource: what can be set, what is shown, and its paths. -/
def resource (m : Metadata) (entry : String × ResourceSpec) : Value :=
  .object [
    ("auto_name", optionalText (m.autoNames.get? entry.1)),
    ("inputs", Value.strings entry.2.inputProperties.keys),
    ("operations", ((m.crud.get? entry.1).map operations).getD .null),
    ("outputs", Value.strings entry.2.properties.keys),
    ("token", .string entry.1)]

/-- A function: its path, and whether it returns anything. -/
def function (m : Metadata) (entry : String × FunctionSpec) : Value :=
  .object [
    ("has_return_type", .bool entry.2.result.isSome),
    ("path", optionalText ((m.crud.get? entry.1).bind (·.read))),
    ("token", .string entry.1)]

/-- The kind of a type. -/
def kind : NamedType → String
  | .object _ => "object"
  | .enum _ => "enum"

/-- A type: its kind. -/
def type (entry : String × NamedType) : Value :=
  .object [("kind", .string (kind entry.2)), ("token", .string entry.1)]

end Summary

/-- The entries of the summary of a document. -/
def summary (d : Document) (e : Extraction) : List (String × Value) := [
  ("functions", .list (e.package.functions.toList.map (Summary.function e.metadata))),
  ("info", .object [("title", .string d.info.title), ("version", .string d.info.version)]),
  ("modules", e.metadata.moduleNamespaces.encode Value.string),
  ("package", .string e.package.name),
  ("resources", .list (e.package.resources.toList.map (Summary.resource e.metadata))),
  ("types", .list (e.package.types.toList.map Summary.type))]

end ResourceInference.CommandLine
