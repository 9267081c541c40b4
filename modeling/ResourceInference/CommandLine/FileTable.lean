import ResourceInference.SortedMap
import ResourceInference.Text.Split

/-!
# Files of a run

The files that a run can see, by path below the working directory, with the failures that reading
and writing them can have. A directory exists if a file lies in it, or if it was made.
-/

set_option autoImplicit false

namespace ResourceInference.CommandLine

/-- Why a file cannot be read or written. -/
inductive FileError where
  | notFound
  | alreadyExists
  | notDirectory
  | isDirectory
  deriving DecidableEq, Repr

/-- What is said of the error. -/
def FileError.message : FileError → String
  | notFound => "No such file or directory (os error 2)"
  | alreadyExists => "File exists (os error 17)"
  | notDirectory => "Not a directory (os error 20)"
  | isDirectory => "Is a directory (os error 21)"

/-- Files by path, and the directories that were made. -/
structure FileTable where
  contents : SortedMap String := ∅
  made : List (List String) := []

namespace FileTable

/-- The names along a path; what changes nothing is left out. -/
def parts (path : String) : List String :=
  (Text.split '/' path).filter fun part => part ≠ "" && part ≠ "."

/-- A path without what changes nothing. -/
def plainPath (path : String) : String := Text.join '/' (parts path)

/-- Whether a path can only be that of a directory. -/
def endsAsDirectory (path : String) : Bool :=
  match (Text.split '/' path).getLast? with
  | some last => last = "" || last = "."
  | none => false

/-- The files of a list of paths and contents. -/
def ofList (files : List (String × String)) : FileTable :=
  { contents := SortedMap.ofList (files.map fun (path, content) => (plainPath path, content)) }

/-- Whether the names along a path lead to a file. -/
def isFile (t : FileTable) (names : List String) : Bool := t.contents.contains (Text.join '/' names)

/-- Whether the names along a path lead to a directory. -/
def isDirectory (t : FileTable) (names : List String) : Bool :=
  names.isEmpty || t.made.any (names.isPrefixOf ·) ||
    t.contents.keys.any fun path =>
      names.isPrefixOf (parts path) && names.length < (parts path).length

/-- Whether a file stands where a path needs a directory. -/
def passesFile (t : FileTable) (names : List String) : Bool :=
  (List.range names.length).any fun count => count ≠ 0 && t.isFile (names.take count)

/-- Why a path cannot be opened, if nothing but its directories counts. -/
def openError? (t : FileTable) (path : String) : Option FileError :=
  let names := parts path
  if path.isEmpty then some .notFound
  else if t.passesFile names then some .notDirectory
  else if t.isDirectory names then some .isDirectory
  else if t.isFile names && endsAsDirectory path then some .notDirectory
  else none

/-- The content of a file. -/
def read (t : FileTable) (path : String) : Except FileError String :=
  match t.openError? path with
  | some e => .error e
  | none =>
    match t.contents.get? (plainPath path) with
    | some content => .ok content
    | none => .error .notFound

/-- Whether something stands at a path. -/
def pathExists (t : FileTable) (path : String) : Bool :=
  t.isFile (parts path) || t.isDirectory (parts path)

/-- A path without the slashes at its end. -/
def dropSlashes (path : List Char) : List Char :=
  (path.reverse.dropWhile (· == '/')).reverse

/-- The directory that a path lies in, if it names one, as the path spells it. -/
def parent? (path : String) : Option String :=
  match Text.cutAtLast? '/' (String.ofList (dropSlashes path.toList)) with
  | some (parent, _) =>
    if parent.isEmpty then none else some (String.ofList (dropSlashes parent.toList))
  | none => none

/-- Make a directory with those around it. -/
def makeDirectory (t : FileTable) (path : String) : Except FileError FileTable :=
  let names := parts path
  if t.passesFile names then .error .notDirectory
  else if t.isFile names then .error .alreadyExists
  else .ok { t with made := names :: t.made }

/-- Write a file; its directory has to be there. -/
def write (t : FileTable) (path content : String) : Except FileError FileTable :=
  match t.openError? path with
  | some e => .error e
  | none =>
    if endsAsDirectory path then .error .isDirectory
    else if !t.isDirectory (parts path).dropLast then .error .notFound
    else .ok { t with contents := t.contents.insert (plainPath path) content }

/-- The files that are new since `before` or have another content. -/
def changesSince (t before : FileTable) : SortedMap String :=
  ⟨t.contents.entries.filter fun entry => before.contents.get? entry.1 ≠ some entry.2,
    t.contents.sorted.filter _⟩

end FileTable

end ResourceInference.CommandLine
