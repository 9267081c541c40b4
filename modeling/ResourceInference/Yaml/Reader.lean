import ResourceInference.Data.Node
import ResourceInference.Yaml.Token

/-!
# Reading YAML

The tree of a YAML text with one document. An alias stands for the node that its anchor marks;
the anchor has to come first. Nothing at all, where a node may stand, is an empty plain scalar.
-/

set_option autoImplicit false

namespace ResourceInference.Yaml

/-- The state of a reader: the tokens that are left, the nodes that anchors mark, the last one
first, and the abbreviations for tags. -/
structure Reader where
  tokens : List Token
  anchors : List (String × Node) := []
  tagHandles : List (String × String) := [("!", "!"), ("!!", "tag:yaml.org,2002:")]

/-- A step of reading; it fails on what is not YAML. -/
abbrev Read := StateT Reader Option

namespace Read

/-- The next token. -/
def peek? : Read (Option Token) := return (← get).tokens.head?

/-- Go past a token. -/
def skip : Read Unit := modify fun r => { r with tokens := r.tokens.drop 1 }

/-- Take a token, if it is the next one. -/
def take? (token : Token) : Read Bool := do
  if (← peek?) = some token then
    skip
    pure true
  else pure false

/-- Whether the next token is one of a few. -/
def atOneOf (tokens : List Token) : Read Bool := return (← peek?).any tokens.contains

/-- The node that stands for nothing. -/
def emptyNode : Node := .plain ""

/-- Anchor and tag in front of a node, in either order. -/
structure Properties where
  anchor : Option String := none
  tag : Option String := none

/-- The tag that a handle and a suffix spell. -/
def resolveTag (handle suffix : String) : Read String := do
  if handle.isEmpty then pure suffix
  else match (← get).tagHandles.lookup handle with
    | some replacement => pure (replacement ++ suffix)
    | none => failure

/-- Take the properties of a node. -/
def properties (p : Properties) : Nat → Read Properties
  | 0 => pure p
  | bound + 1 => do
    match ← peek?, p.anchor, p.tag with
    | some (.anchor name), none, _ =>
      skip
      properties { p with anchor := some name } bound
    | some (.tag handle suffix), _, none =>
      skip
      properties { p with tag := some (← resolveTag handle suffix) } bound
    | _, _, _ => pure p

/-- A node with its properties: the tag on it, and marked by the anchor. -/
def finish (p : Properties) (node : Node) : Read Node := do
  let node := match p.tag with
    | some tag => .tagged tag node
    | none => node
  match p.anchor with
  | some name => modify fun r => { r with anchors := (name, node) :: r.anchors }
  | none => pure ()
  pure node

/-- The deepest nesting of lists and mappings. -/
def depthLimit : Nat := 128

mutual

/-- A node. In a `block` blocks may stand, and with `indentless` also the items of a sequence
that is not indented. -/
def node (depth : Nat) (block indentless : Bool) : Nat → Read Node
  | 0 => failure
  | fuel + 1 => do
    match ← peek? with
    | some (.alias name) =>
      skip
      match (← get).anchors.lookup name with
      | some node => pure node
      | none => failure
    | _ =>
      let p ← properties {} 2
      let inner := depth + 1
      if depthLimit < inner then failure
      match ← peek? with
      | some (.scalar isPlain text) =>
        skip
        finish p (if isPlain then .plain text else .string text)
      | some .flowSequenceStart =>
        skip
        let items ← flowItems inner true fuel
        finish p (.list items)
      | some .flowMappingStart =>
        skip
        let entries ← flowEntries inner true fuel
        finish p (.mapping entries)
      | some .blockEntry =>
        if indentless then
          let items ← indentlessItems inner fuel
          finish p (.list items)
        else if p.anchor.isSome || p.tag.isSome then finish p emptyNode
        else failure
      | some .blockSequenceStart =>
        if block then
          skip
          let items ← blockItems inner fuel
          finish p (.list items)
        else if p.anchor.isSome || p.tag.isSome then finish p emptyNode
        else failure
      | some .blockMappingStart =>
        if block then
          skip
          let entries ← blockEntries inner fuel
          finish p (.mapping entries)
        else if p.anchor.isSome || p.tag.isSome then finish p emptyNode
        else failure
      | _ => if p.anchor.isSome || p.tag.isSome then finish p emptyNode else failure
termination_by structural fuel => fuel

/-- A node, or nothing in front of one of a few tokens. -/
def nodeUnless (depth : Nat) (stops : List Token) (block indentless : Bool) : Nat → Read Node
  | 0 => failure
  | fuel + 1 => do
    if (← atOneOf stops) then pure emptyNode else node depth block indentless fuel
termination_by structural fuel => fuel

/-- The items of a block sequence, and its end. -/
def blockItems (depth : Nat) : Nat → Read (List Node)
  | 0 => failure
  | fuel + 1 => do
    if (← take? .blockEntry) then
      let item ← nodeUnless depth [.blockEntry, .blockEnd] true false fuel
      return item :: (← blockItems depth fuel)
    else if (← take? .blockEnd) then pure []
    else failure
termination_by structural fuel => fuel

/-- The items of a sequence that is not indented. -/
def indentlessItems (depth : Nat) : Nat → Read (List Node)
  | 0 => failure
  | fuel + 1 => do
    if (← take? .blockEntry) then
      let item ← nodeUnless depth [.blockEntry, .key, .value, .blockEnd] true false fuel
      return item :: (← indentlessItems depth fuel)
    else pure []
termination_by structural fuel => fuel

/-- The entries of a block mapping, and its end. -/
def blockEntries (depth : Nat) : Nat → Read (List (Node × Node))
  | 0 => failure
  | fuel + 1 => do
    if (← take? .key) then
      let key ← nodeUnless depth [.key, .value, .blockEnd] true true fuel
      let value ←
        if (← take? .value) then nodeUnless depth [.key, .value, .blockEnd] true true fuel
        else pure emptyNode
      return (key, value) :: (← blockEntries depth fuel)
    else if (← take? .blockEnd) then pure []
    else failure
termination_by structural fuel => fuel

/-- The items of a flow sequence, and its end. An item may be a mapping of a single entry. -/
def flowItems (depth : Nat) (first : Bool) : Nat → Read (List Node)
  | 0 => failure
  | fuel + 1 => do
    if (← take? .flowSequenceEnd) then pure []
    else
      if !first then
        if !(← take? .flowEntry) then failure
      if (← take? .flowSequenceEnd) then pure []
      else
        let item ←
          if (← take? .key) then
            let key ← nodeUnless depth [.value, .flowEntry, .flowSequenceEnd] false false fuel
            let value ←
              if (← take? .value) then
                nodeUnless depth [.flowEntry, .flowSequenceEnd] false false fuel
              else pure emptyNode
            pure (Node.mapping [(key, value)])
          else node depth false false fuel
        return item :: (← flowItems depth false fuel)
termination_by structural fuel => fuel

/-- The entries of a flow mapping, and its end. -/
def flowEntries (depth : Nat) (first : Bool) : Nat → Read (List (Node × Node))
  | 0 => failure
  | fuel + 1 => do
    if (← take? .flowMappingEnd) then pure []
    else
      if !first then
        if !(← take? .flowEntry) then failure
      if (← take? .flowMappingEnd) then pure []
      else
        let (key, value) ←
          if (← take? .key) then
            let key ← nodeUnless depth [.value, .flowEntry, .flowMappingEnd] false false fuel
            let value ←
              if (← take? .value) then
                nodeUnless depth [.flowEntry, .flowMappingEnd] false false fuel
              else pure emptyNode
            pure (key, value)
          else
            let key ← node depth false false fuel
            pure (key, emptyNode)
        return (key, value) :: (← flowEntries depth false fuel)
termination_by structural fuel => fuel

end

/-- Take directives. There may be one version, which has to be 1.1 or 1.2. -/
def directives (seenVersion : Bool) : Nat → Read Bool
  | 0 => pure false
  | bound + 1 => do
    match ← peek? with
    | some (.versionDirective major minor) =>
      if seenVersion || major ≠ 1 || (minor ≠ 1 && minor ≠ 2) then failure
      else
        skip
        let _ ← directives true bound
        pure true
    | some (.tagDirective handle replacement) =>
      skip
      modify fun r => { r with tagHandles := (handle, replacement) :: r.tagHandles }
      let _ ← directives seenVersion bound
      pure true
    | _ => pure false

/-- Take the marks behind a document. -/
def documentEnds : Nat → Read Unit
  | 0 => pure ()
  | bound + 1 => do
    if (← take? .documentEnd) then documentEnds bound else pure ()

/-- The only document of a text. -/
def document : Read Node := do
  let count := (← get).tokens.length
  let fuel := 3 * count + 3
  let hasDirectives ← directives false count
  let marked ← take? .documentStart
  if hasDirectives && !marked then failure
  let root ←
    if (← peek?).isNone then pure emptyNode
    else if marked && (← atOneOf [.documentStart, .documentEnd]) then pure emptyNode
    else node 0 true false fuel
  documentEnds count
  if (← peek?).isSome then failure
  pure root

end Read

/-- The tree of a YAML text, if it is one. -/
def read? (text : String) : Option Node :=
  (tokens? text).bind fun tokens => (Read.document.run { tokens }).map (·.1)

end ResourceInference.Yaml
