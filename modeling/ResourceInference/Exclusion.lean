import ResourceInference.Pattern.RegexReader
import ResourceInference.Pattern.Wildcard

/-!
# Excluded operations

A rule excludes the operations whose path matches a pattern, under one method or under all of
them. Rules are checked once, when they are made into an `ExclusionList`.
-/

set_option autoImplicit false

namespace ResourceInference

/-- How the pattern of a rule is read. -/
inductive PatternType where
  | exact
  | wildcard
  | regex
  deriving DecidableEq, Repr

namespace PatternType

/-- All ways to read a pattern. -/
def all : List PatternType := [exact, wildcard, regex]

/-- A way to read patterns, as it is written. -/
def name : PatternType → String
  | exact => "exact"
  | wildcard => "wildcard"
  | regex => "regex"

/-- The way to read patterns that is written so. -/
def ofName? (name : String) : Option PatternType := all.find? (·.name = name)

end PatternType

/-- A rule as it is configured. Without a method it is for all of them. -/
structure ExclusionRule where
  method : Option String := none
  pathPattern : String := ""
  patternType : PatternType := .wildcard
  deriving DecidableEq, Repr

/-- Why rules are refused; `index` counts the rules. -/
inductive ExclusionError where
  | emptyPattern (index : Nat)
  | invalidMethod (index : Nat) (method : String)
  /-- The pattern is no regular expression. -/
  | invalidPattern (index : Nat) (pattern : String)
  deriving DecidableEq, Repr

/-- What is said of the error. -/
def ExclusionError.message : ExclusionError → String
  | emptyPattern index =>
    "invalid exclusion at index " ++ toString index ++ ": pathPattern is required"
  | invalidMethod index method =>
    "invalid exclusion at index " ++ toString index ++ ": invalid HTTP method: " ++ method
  | invalidPattern index pattern =>
    "invalid exclusion at index " ++ toString index ++ ": failed to compile pattern " ++ pattern

/-! ## Path patterns -/

/-- What a pattern demands of a path. -/
inductive PathTest where
  | equals
  | matchesRegex (regex : Pattern.Regex)

/-- A pattern that is ready to be matched. -/
structure PathPattern where
  pattern : String
  type : PatternType
  test : PathTest

namespace PathPattern

/-- Make a pattern ready. What is no regular expression fails, and one that is too large. -/
def make? (pattern : String) (type : PatternType) : Option PathPattern :=
  match type with
  | .exact => some ⟨pattern, type, .equals⟩
  | .wildcard =>
    (Pattern.Regex.read? (Pattern.Wildcard.source pattern)).map fun regex =>
      ⟨pattern, type, .matchesRegex regex⟩
  | .regex => (Pattern.Regex.read? pattern).map fun regex => ⟨pattern, type, .matchesRegex regex⟩

/-- Whether a path matches: as a whole, or for a regular expression in some part. -/
def matchesPath (p : PathPattern) (path : String) : Bool :=
  match p.test with
  | .equals => p.pattern = path
  | .matchesRegex regex => regex.matchesText path

end PathPattern

/-! ## Lists of rules -/

/-- A rule that is ready to be applied; its method is in upper case. -/
structure Exclusion where
  method : Option String
  path : PathPattern

namespace Exclusion

/-- Whether the rule is for an operation. -/
def matchesOperation (e : Exclusion) (method path : String) : Bool :=
  (match e.method with
    | some expected => Text.sameIgnoringAsciiCase expected method
    | none => true) && e.path.matchesPath path

/-- The rule in words. -/
def describe (e : Exclusion) : String :=
  e.method.getD "*" ++ " " ++ e.path.pattern ++ " (" ++ e.path.type.name ++ ")"

/-- The methods that a rule may name. -/
def methods : List String :=
  ["GET", "POST", "PUT", "PATCH", "DELETE", "HEAD", "OPTIONS", "CONNECT", "TRACE"]

/-- The method of a rule in upper case; an empty one is none. -/
def checkMethod (index : Nat) : Option String → Except ExclusionError (Option String)
  | none => .ok none
  | some method =>
    if method.isEmpty then .ok none
    else
      let name := Text.upper method
      if methods.contains name then .ok (some name) else .error (.invalidMethod index method)

/-- Check a rule and make it ready. -/
def ofRule (index : Nat) (rule : ExclusionRule) : Except ExclusionError Exclusion :=
  if rule.pathPattern.isEmpty then .error (.emptyPattern index)
  else do
    let method ← checkMethod index rule.method
    match PathPattern.make? rule.pathPattern rule.patternType with
    | some path => pure ⟨method, path⟩
    | none => throw (.invalidPattern index rule.pathPattern)

/-- Check rules that are counted from `index`, the first one at fault decides. -/
def ofRules (index : Nat) : List ExclusionRule → Except ExclusionError (List Exclusion)
  | [] => .ok []
  | rule :: rest => do
    let first ← ofRule index rule
    pure (first :: (← ofRules (index + 1) rest))

/-- The rule that excludes one path under every method. -/
def ofPath (path : String) : Exclusion := ⟨none, ⟨path, .exact, .equals⟩⟩

end Exclusion

/-- Rules that are ready to be applied. -/
structure ExclusionList where
  exclusions : List Exclusion := []

namespace ExclusionList

/-- The list without rules. -/
def none : ExclusionList := {}

/-- The list of the paths that are not empty, each excluded under every method, and of the
rules. -/
def make (rules : List ExclusionRule) (paths : List String) :
    Except ExclusionError ExclusionList := do
  let exclusions ← Exclusion.ofRules 0 rules
  pure ⟨(paths.filter fun path => !path.isEmpty).map Exclusion.ofPath ++ exclusions⟩

/-- Whether an operation is excluded. -/
def excludes (list : ExclusionList) (method path : String) : Bool :=
  list.exclusions.any (·.matchesOperation method path)

/-- The rules that are for an operation, in words. -/
def descriptions (list : ExclusionList) (method path : String) : List String :=
  (list.exclusions.filter (·.matchesOperation method path)).map Exclusion.describe

/-- How many rules there are. -/
def size (list : ExclusionList) : Nat := list.exclusions.length

end ExclusionList

end ResourceInference
