import Onboarding.Yaml.Token

/-! # The nodes of a YAML text

The tokens of a text make a tree of scalars, sequences and mappings. An anchor
numbers the node that it names, and an alias stands for the node of a number. A
name that is given again numbers a new node; the numbers count the different names
given so far, and of several nodes with one number the one that begins last counts.
A text holds at most one document, and a text without one holds an empty scalar.
-/

namespace Onboarding.Yaml

/-- A node: a scalar, a sequence, a mapping, or an alias of a node that has an anchor. -/
inductive Node where
  | scalar (style : ScalarStyle) (tag : Option String) (text : String)
  | sequence (tag : Option String) (items : List Node)
  | mapping (tag : Option String) (entries : List (Node × Node))
  | alias (target : Nat)
  deriving Repr, Inhabited

namespace Node

/-- A scalar that is not written at all. -/
def empty : Node := scalar .plain none ""

end Node

/-- A node that an anchor names: its number, the number of anchors before it, and
the node. -/
structure Anchored where
  number : Nat
  order : Nat
  node : Node

/-- The state of the reading of nodes: the tokens that are left, what the tag
handles stand for, the names given so far with their numbers, and the anchored
nodes that are complete. -/
structure Composition where
  tokens : List Token
  handles : List (String × String)
  names : List (String × Nat)
  given : Nat
  anchored : List Anchored

/-- A reading of tokens, which may fail. -/
abbrev Compose := StateT Composition Option

namespace Compose

/-- The next token, which stays. -/
def peek : Compose (Option Token) := do
  return (← get).tokens.head?

/-- Pass over the next token. -/
def skip : Compose Unit :=
  modify fun state => { state with tokens := state.tokens.tail }

/-- Pass over a token, if it is the given one. -/
def skipIf (token : Token) : Compose Bool := do
  if (← peek) = some token then
    skip
    return true
  else return false

/-- Whether the next token is one of those given; the end of the text counts. -/
def atOneOf (tokens : List Token) : Compose Bool := do
  match ← peek with
  | none => return true
  | some token => return tokens.contains token

/-- Pass over an anchor and a tag, in either order. -/
def properties : Compose (Option String × Option (String × String)) := do
  match ← peek with
  | some (.anchor name) =>
    skip
    match ← peek with
    | some (.tag handle suffix) =>
      skip
      return (some name, some (handle, suffix))
    | _ => return (some name, none)
  | some (.tag handle suffix) =>
    skip
    match ← peek with
    | some (.anchor name) =>
      skip
      return (some name, some (handle, suffix))
    | _ => return (none, some (handle, suffix))
  | _ => return (none, none)

/-- The whole tag that a handle and a suffix stand for. The handle has to be
known. -/
def wholeTag : Option (String × String) → Compose (Option String)
  | none => return none
  | some ("", suffix) => return some suffix
  | some (handle, suffix) => do
    match (← get).handles.lookup handle with
    | some start => return some (start ++ suffix)
    | none => failure

/-- Number a node that begins here, if it has a name. -/
def number : Option String → Compose (Option (Nat × Nat))
  | none => return none
  | some name => do
    let state ← get
    let count := (state.names.map Prod.fst).eraseDups.length
    set { state with names := (name, count) :: state.names, given := state.given + 1 }
    return some (count, state.given)

/-- Keep a node that has a number. -/
def keep (place : Option (Nat × Nat)) (node : Node) : Compose Node := do
  match place with
  | none => return node
  | some (number, order) =>
    modify fun state => { state with anchored := ⟨number, order, node⟩ :: state.anchored }
    return node

/-- A node of which only the anchor or the tag is written is an empty scalar. -/
def missing (name : Option String) (tag : Option String) : Compose Node := do
  if name.isNone ∧ tag.isNone then failure
  let place ← number name
  keep place (.scalar .plain tag "")

mutual

/-- Read a node. Inside brackets no block may begin, and in the value of a block
mapping a sequence need not be indented. -/
def node (inBlock indentless : Bool) : Nat → Compose Node
  | 0 => failure
  | fuel + 1 => do
    match ← peek with
    | some (.alias name) =>
      skip
      match (← get).names.lookup name with
      | some number => return .alias number
      | none => failure
    | _ =>
      let (name, shortTag) ← properties
      let tag ← wholeTag shortTag
      match ← peek with
      | some .blockEntry =>
        if indentless then
          let place ← number name
          keep place (.sequence tag (← entries true fuel))
        else missing name tag
      | some (.scalar style text) =>
        skip
        let place ← number name
        keep place (.scalar style tag text)
      | some .flowSequence =>
        skip
        let place ← number name
        keep place (.sequence tag (← flowItems true fuel))
      | some .flowMapping =>
        skip
        let place ← number name
        keep place (.mapping tag (← flowMembers true fuel))
      | some .blockSequence =>
        if inBlock then
          skip
          let place ← number name
          keep place (.sequence tag (← entries false fuel))
        else missing name tag
      | some .blockMapping =>
        if inBlock then
          skip
          let place ← number name
          keep place (.mapping tag (← members fuel))
        else missing name tag
      | _ => missing name tag

/-- Read a node, or an empty scalar in front of one of some tokens. -/
def nodeUnless (ends : List Token) (inBlock indentless : Bool) : Nat → Compose Node
  | 0 => failure
  | fuel + 1 => do
    match ← peek with
    | some token =>
      if ends.contains token then return .empty else node inBlock indentless fuel
    | none => failure

/-- Read the entries of a block sequence. One that is not indented ends at the
first token that is no entry. -/
def entries (indentless : Bool) : Nat → Compose (List Node)
  | 0 => failure
  | fuel + 1 => do
    if ← skipIf .blockEntry then
      let ends := if indentless then [.blockEntry, .key, .value, .blockEnd]
        else [.blockEntry, .blockEnd]
      let item ← nodeUnless ends true false fuel
      return item :: (← entries indentless fuel)
    else if indentless then return []
    else if ← skipIf .blockEnd then return []
    else failure

/-- The entries of a mapping in block style, to its end. A key or a content that is left
out is empty. -/
def members : Nat → Compose (List (Node × Node))
  | 0 => failure
  | fuel + 1 => do
    let ends : List Token := [.key, .value, .blockEnd]
    if ← skipIf .blockEnd then return []
    else
      if !(← skipIf .key) then failure
      let key ← nodeUnless ends true true fuel
      let content ←
        if ← skipIf .value then nodeUnless ends true true fuel else pure .empty
      return (key, content) :: (← members fuel)

/-- Read the items of a sequence in brackets. An item may be a mapping with one
member and no brackets of its own. -/
def flowItems (first : Bool) : Nat → Compose (List Node)
  | 0 => failure
  | fuel + 1 => do
    if ← skipIf .flowSequenceEnd then return []
    else
      if !first then
        if !(← skipIf .flowEntry) then failure
      if ← skipIf .flowSequenceEnd then return []
      else if ← skipIf .key then
        let ends : List Token := [.value, .flowEntry, .flowSequenceEnd]
        let key ←
          if ← atOneOf ends then
            skip
            pure .empty
          else node false false fuel
        let content ←
          if ← skipIf .value then
            nodeUnless [.flowEntry, .flowSequenceEnd] false false fuel
          else pure .empty
        return .mapping none [(key, content)] :: (← flowItems false fuel)
      else
        let item ← node false false fuel
        return item :: (← flowItems false fuel)

/-- Read the members of a mapping in brackets. -/
def flowMembers (first : Bool) : Nat → Compose (List (Node × Node))
  | 0 => failure
  | fuel + 1 => do
    if ← skipIf .flowMappingEnd then return []
    else
      if !first then
        if !(← skipIf .flowEntry) then failure
      if ← skipIf .flowMappingEnd then return []
      else if ← skipIf .key then
        let key ← nodeUnless [.value, .flowEntry, .flowMappingEnd] false false fuel
        let content ←
          if ← skipIf .value then
            nodeUnless [.flowEntry, .flowMappingEnd] false false fuel
          else pure .empty
        return (key, content) :: (← flowMembers false fuel)
      else
        let key ← node false false fuel
        return (key, .empty) :: (← flowMembers false fuel)

end

/-- Pass over the directives in front of a document. There is at most one version,
which is 1.1 or 1.2, and no handle is given a meaning twice. -/
def directives (versionSeen : Bool) : Nat → Compose Unit
  | 0 => failure
  | fuel + 1 => do
    match ← peek with
    | some (.version major minor) =>
      skip
      if versionSeen ∨ major ≠ 1 ∨ (minor ≠ 1 ∧ minor ≠ 2) then failure
      directives true fuel
    | some (.tagHandle handle start) =>
      skip
      let state ← get
      if (state.handles.map Prod.fst).contains handle then failure
      set { state with handles := (handle, start) :: state.handles }
      directives versionSeen fuel
    | _ => return ()

/-- What tag handles stand for, unless a directive gives them another meaning. -/
def usualHandles : List (String × String) :=
  [("!", "!"), ("!!", "tag:yaml.org,2002:")]

/-- Read the content of a document behind its directives. It may be absent if the
beginning of the document is marked. -/
def document (fuel : Nat) : Compose Node := do
  modify fun state => { state with handles := state.handles ++ usualHandles }
  if ← skipIf .documentStart then
    match ← peek with
    | none | some (.version _ _) | some (.tagHandle _ _) | some .documentStart
    | some .documentEnd => return .empty
    | _ => node true false fuel
  else node true false fuel

/-- Pass over the marks of the end of documents. -/
def skipEnds : Nat → Compose Unit
  | 0 => return ()
  | fuel + 1 => do
    if ← skipIf .documentEnd then skipEnds fuel

/-- Read a text with at most one document. -/
def text (fuel : Nat) : Compose Node := do
  match ← peek with
  | none => return .empty
  | some first =>
    directives false fuel
    let marked := (← peek) = some .documentStart
    match first with
    | .version _ _ | .tagHandle _ _ => if !marked then failure
    | _ => pure ()
    let root ← document fuel
    skipEnds fuel
    match ← peek with
    | none => return root
    | some _ => failure

end Compose

/-- A document: its root, and the nodes that aliases stand for. -/
structure Tree where
  root : Node
  anchored : List Anchored

/-- The node behind a number: of the anchors with that number, the one that came last. -/
def Tree.target? (tree : Tree) (number : Nat) : Option Node :=
  let candidates := tree.anchored.filter (·.number == number)
  (candidates.foldl (fun latest candidate =>
    match latest with
    | none => some candidate
    | some found => if found.order < candidate.order then some candidate else latest)
    (none : Option Anchored)).map (·.node)

/-- The document of a text; nothing if the text is no YAML or holds several. -/
def Tree.ofText? (text : String) : Option Tree := do
  let tokens ← tokens? text
  let (root, state) ← (Compose.text (4 * tokens.length + 8)).run ⟨tokens, [], [], 0, []⟩
  return ⟨root, state.anchored⟩

end Onboarding.Yaml
