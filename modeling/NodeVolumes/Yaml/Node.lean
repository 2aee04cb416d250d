import NodeVolumes.Yaml.Token

/-! # The tree of a YAML document

The tokens of a text form at most one document, a tree of scalars, sequences and mappings. A node with
an anchor gets a number: the number of different names that anchors have had in front of it. An alias
stands for the number that its name had last, and a number for the last node that has it, wherever in
the document that is.

* `Document.ofTokens?` gives the document in a list of tokens, `Document.ofText?` the one in a text.
* `Document.target?` looks up the node that an alias stands for. -/

namespace NodeVolumes.Yaml

/-- A node of a document. -/
inductive Node where
  | scalar (text : String) (style : Style) (tag : Option Tag)
  | sequence (items : List Node) (tag : Option Tag)
  | mapping (pairs : List (Node × Node)) (tag : Option Tag)
  /-- An alias for the node with a number. -/
  | reference (number : Nat)
  deriving Repr

namespace Node

/-- An empty plain scalar, as it stands where a node is left out. -/
def absent (tag : Option Tag) : Node := scalar "" .plain tag

mutual

/-- The number of parts of a node: one for a scalar or an alias, two for the ends of a collection. -/
def parts : Node → Nat
  | scalar .. => 1
  | reference _ => 1
  | sequence items _ => partsOfItems items + 2
  | mapping pairs _ => partsOfPairs pairs + 2

/-- The number of parts of the items of a sequence. -/
def partsOfItems : List Node → Nat
  | [] => 0
  | n :: rest => n.parts + partsOfItems rest

/-- The number of parts of the pairs of a mapping. -/
def partsOfPairs : List (Node × Node) → Nat
  | [] => 0
  | (key, value) :: rest => key.parts + value.parts + partsOfPairs rest

end

/-- The tokens that are left and the names that have been given so far. -/
structure Cursor where
  rest : List Token
  /-- The latest number of each anchor. -/
  anchors : List (String × Nat)
  /-- The nodes with anchors by their numbers, the latest first; an open one is missing. -/
  anchored : List (Nat × Option Node)
  /-- Tag handles and what they expand to. -/
  handles : List (String × Octets)

/-- A computation on the tokens that are left. -/
abbrev Build := StateT Cursor Option

/-- The next token. -/
def peek : Build (Option Token) := return (← get).rest.head?

/-- Passes over one token. -/
def skip : Build Unit := modify fun c => { c with rest := c.rest.drop 1 }

/-- Tells whether one of the tokens is next, or none at all. -/
def atOneOf (ts : List Token) : Build Bool := do
  match ← peek with
  | none => return true
  | some t => return ts.contains t

/-- Passes over a token that has to be next. -/
def expect (t : Token) : Build Unit := do
  if (← peek) == some t then skip else failure

/-- The full form of a tag. -/
def expandTag (handle : String) (suffix : Octets) : Build Tag := do
  if handle == "" then return ⟨suffix⟩
  match (← get).handles.lookup handle with
  | some expansion => return ⟨expansion ++ suffix⟩
  | none => failure

/-- Takes an anchor and a tag, each at most once and in either order. -/
def properties : Build (Option String × Option Tag) := do
  let anchor? : Build (Option String) := do
    match ← peek with
    | some (.anchor name) => skip; return some name
    | _ => return none
  let tag? : Build (Option Tag) := do
    match ← peek with
    | some (.tag handle suffix) => skip; return some (← expandTag handle suffix)
    | _ => return none
  match ← anchor? with
  | some name => return (some name, ← tag?)
  | none =>
    match ← tag? with
    | some t => return (← anchor?, some t)
    | none => return (none, none)

/-- Numbers an anchor; gives its place among all of them, counted from one, and zero for none. -/
def openAnchor (anchor : Option String) : Build Nat := do
  match anchor with
  | none => return 0
  | some a =>
    modify fun c =>
      let number := c.anchors.length
      { c with
        anchors := (a, number) :: c.anchors.filter (·.1 != a)
        anchored := (number, none) :: c.anchored }
    return (← get).anchored.length

/-- Gives the anchor at a place its node. -/
def closeAnchor (place : Nat) (node : Node) : Build Unit :=
  if place = 0 then return
  else modify fun c => { c with
    anchored := c.anchored.modify (c.anchored.length - place) fun (n, _) => (n, some node) }

mutual

/-- Takes a node. Block collections are possible where `block` says so, and a sequence without own
indentation where `indentless` does. -/
def build (block indentless : Bool) : Nat → Build Node
  | 0 => failure
  | fuel + 1 => do
    match ← peek with
    | some (.reference a) =>
      skip
      match (← get).anchors.lookup a with
      | none => failure
      | some number => return reference number
    | _ =>
      let (anchor, tag) ← properties
      let place ← openAnchor anchor
      let node ← do
        match ← peek with
        | some .blockEntry =>
          if indentless then pure (sequence (← indentlessItems fuel) tag)
          else if anchor.isSome || tag.isSome then pure (absent tag) else failure
        | some (.scalar text style) =>
          skip
          pure (scalar text style tag)
        | some .flowSequenceStart =>
          skip
          pure (sequence (← flowItems true fuel) tag)
        | some .flowMappingStart =>
          skip
          pure (mapping (← flowPairs true fuel) tag)
        | some .blockSequenceStart =>
          if block then
            skip
            pure (sequence (← blockItems fuel) tag)
          else if anchor.isSome || tag.isSome then pure (absent tag) else failure
        | some .blockMappingStart =>
          if block then
            skip
            pure (mapping (← blockPairs fuel) tag)
          else if anchor.isSome || tag.isSome then pure (absent tag) else failure
        | _ => if anchor.isSome || tag.isSome then pure (absent tag) else failure
      closeAnchor place node
      return node

/-- Takes a block node, or none in front of one of the tokens. -/
def buildUnless (ts : List Token) (indentless : Bool) : Nat → Build Node
  | 0 => failure
  | fuel + 1 => do
    if ← atOneOf ts then return absent none else build true indentless fuel

/-- Takes a flow node, or none in front of one of the tokens. -/
def flowUnless (ts : List Token) : Nat → Build Node
  | 0 => failure
  | fuel + 1 => do
    if ← atOneOf ts then return absent none else build false false fuel

/-- Takes the items of a block sequence and its end. -/
def blockItems : Nat → Build (List Node)
  | 0 => failure
  | fuel + 1 => do
    match ← peek with
    | some .blockEntry =>
      skip
      let item ← buildUnless [.blockEntry, .blockEnd] false fuel
      return item :: (← blockItems fuel)
    | some .blockEnd => skip; return []
    | _ => failure

/-- Takes the items of a sequence without own indentation. -/
def indentlessItems : Nat → Build (List Node)
  | 0 => failure
  | fuel + 1 => do
    match ← peek with
    | some .blockEntry =>
      skip
      let item ← buildUnless [.blockEntry, .key, .value, .blockEnd] false fuel
      return item :: (← indentlessItems fuel)
    | _ => return []

/-- Takes the pairs of a block mapping and its end. -/
def blockPairs : Nat → Build (List (Node × Node))
  | 0 => failure
  | fuel + 1 => do
    match ← peek with
    | some .key =>
      skip
      let key ← buildUnless [.key, .value, .blockEnd] true fuel
      let value ← blockValue fuel
      return (key, value) :: (← blockPairs fuel)
    | some .blockEnd => skip; return []
    | _ => failure

/-- Takes the value of a pair of a block mapping, if it has one. -/
def blockValue : Nat → Build Node
  | 0 => failure
  | fuel + 1 => do
    match ← peek with
    | some .value =>
      skip
      buildUnless [.key, .value, .blockEnd] true fuel
    | _ => return absent none

/-- Takes the items of a flow sequence and its end. After a mark of a key, a token that leaves no room
for the key itself is passed over. -/
def flowItems (isFirst : Bool) : Nat → Build (List Node)
  | 0 => failure
  | fuel + 1 => do
    if (← peek) == some .flowSequenceEnd then
      skip
      return []
    if !isFirst then expect .flowEntry
    match ← peek with
    | some .flowSequenceEnd => skip; return []
    | some .key =>
      skip
      let key ← do
        if ← atOneOf [.value, .flowEntry, .flowSequenceEnd] then
          skip
          pure (absent none)
        else build false false fuel
      let value ← flowValue .flowSequenceEnd fuel
      return mapping [(key, value)] none :: (← flowItems false fuel)
    | _ =>
      let item ← build false false fuel
      return item :: (← flowItems false fuel)

/-- Takes the pairs of a flow mapping and its end. -/
def flowPairs (isFirst : Bool) : Nat → Build (List (Node × Node))
  | 0 => failure
  | fuel + 1 => do
    if (← peek) == some .flowMappingEnd then
      skip
      return []
    if !isFirst then expect .flowEntry
    match ← peek with
    | some .flowMappingEnd => skip; return []
    | some .key =>
      skip
      let key ← flowUnless [.value, .flowEntry, .flowMappingEnd] fuel
      let value ← flowValue .flowMappingEnd fuel
      return (key, value) :: (← flowPairs false fuel)
    | _ =>
      let key ← build false false fuel
      return (key, absent none) :: (← flowPairs false fuel)

/-- Takes the value of a pair in a flow collection, if it has one. -/
def flowValue (closing : Token) : Nat → Build Node
  | 0 => failure
  | fuel + 1 => do
    match ← peek with
    | some .value =>
      skip
      flowUnless [.flowEntry, closing] fuel
    | _ => return absent none

end

end Node

/-! ### Documents -/

/-- A document: its tree, and its nodes with anchors by their numbers, the latest first. -/
structure Document where
  root : Node
  anchored : List (Nat × Node)
  deriving Repr

namespace Document

open Yaml.Node (Build Cursor absent peek skip build)

/-- The node that an alias stands for. -/
def target? (d : Document) (number : Nat) : Option Node := d.anchored.lookup number

/-- The directives that a document may have, each at most once. -/
def directives (versions : Nat) : Nat → Build Nat
  | 0 => failure
  | fuel + 1 => do
    match ← peek with
    | some (.versionDirective major minor) =>
      if versions != 0 || major != 1 || (minor != 1 && minor != 2) then failure
      skip
      let n ← directives 1 fuel
      return n + 1
    | some (.tagDirective handle expansion) =>
      skip
      if ((← get).handles.map (·.1)).contains handle then failure
      modify fun c => { c with handles := (handle, expansion) :: c.handles }
      let n ← directives versions fuel
      return n + 1
    | _ => return 0

/-- Gives the usual tag handles what they stand for, where the document does not. -/
def usualHandles : Build Unit :=
  modify fun c => { c with
    handles := c.handles ++ [("!", Octets.ofString "!"), ("!!", Tag.coreHead)] }

/-- Tells the tokens that end a document or belong to the next one. -/
def endsDocument : Option Token → Bool
  | none | some .documentStart | some .documentEnd | some (.versionDirective ..)
  | some (.tagDirective ..) => true
  | _ => false

/-- Takes the only tree: nothing, a bare tree, or a tree after a document start. -/
def onlyTree (fuel : Nat) : Build Node := do
  if (← peek).isNone then return absent none
  let found ← directives 0 fuel
  usualHandles
  let explicit := (← peek) == some .documentStart
  if found != 0 && !explicit then failure
  if explicit then skip
  let node ← if explicit && endsDocument (← peek) then pure (absent none) else build true false fuel
  modify fun c => { c with rest := c.rest.dropWhile (· == .documentEnd) }
  if (← peek).isSome then failure
  return node

/-- The only document in a list of tokens; without any it is an absent node. -/
def ofTokens? (tokens : List Token) : Option Document := do
  let (node, c) ← (onlyTree (3 * tokens.length + 10)).run ⟨tokens, [], [], []⟩
  return ⟨node, c.anchored.filterMap fun (number, n) => n.map fun n => (number, n)⟩

/-- The only document in a text. -/
def ofText? (text : String) : Option Document := (tokens? text).bind ofTokens?

end Document
end NodeVolumes.Yaml
