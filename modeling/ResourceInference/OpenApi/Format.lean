import ResourceInference.Text.Case
import ResourceInference.Text.Split

/-!
# Formats of files

A file is JSON if its name ends with `.json`, in any case of the letters. Everything else is read
as YAML, which takes most JSON too.
-/

set_option autoImplicit false

namespace ResourceInference

/-- The format of a text. -/
inductive TextFormat where
  | json
  | yaml
  deriving DecidableEq, Repr

namespace TextFormat

/-- The last part of a path, if that is a name. -/
def fileName? (path : String) : Option String :=
  match ((Text.split '/' path).filter fun part => part ≠ "" && part ≠ ".").getLast? with
  | some name => if name = ".." then none else some name
  | none => none

/-- What follows the last dot of a file name, if something stands before it. -/
def extension? (path : String) : Option String :=
  (fileName? path).bind fun name =>
    (Text.afterLast? ['.'] name.toList).bind fun ending =>
      if ending.length + 1 = name.length then none else some (String.ofList ending)

/-- The format of the file at a path. -/
def ofPath (path : String) : TextFormat :=
  match extension? path with
  | some ending => if Text.sameIgnoringAsciiCase ending "json" then json else yaml
  | none => yaml

end TextFormat

end ResourceInference
