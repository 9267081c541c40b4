/-!
# The configuration of a new project

A file with every setting at its default and a word on each.
-/

set_option autoImplicit false

namespace ResourceInference.Config

/-- The name of the file that holds the configuration. -/
def fileName : String := ".provschema.yaml"

/-- The lines of a new configuration. -/
def templateLines : List String := [
  "# provschema configuration",
  "input: openapi.yaml",
  "output: schema.json",
  "metadata_output: metadata.json",
  "# package_name: provider          # defaults to the kebab-cased info.title",
  "",
  "use_parent_resource_as_module: false",
  "operation_ids_have_namespace: false  # e.g. Widgets_create",
  "namespace_separator: \"_\"",
  "allowed_plural_resources: []         # extra names that stay plural",
  "normalize_path_params: true          # /users/\x7bid\x7d/keys/\x7bkey_id\x7d -> " ++
    "/users/\x7busersId\x7d/keys/\x7bid\x7d",
  "on_duplicate_enum: fail              # fail | warn",
  "",
  "excluded_paths: []                   # exact paths, all methods",
  "exclusions: []",
  "  # - method: GET                    # omit for all methods",
  "  #   pathPattern: /debug/*",
  "  #   patternType: wildcard          # exact | wildcard | regex"]

/-- The text of a new configuration. -/
def template : String := String.join (templateLines.map (· ++ "\n"))

end ResourceInference.Config
