import NeighborBench.Keyed
import NeighborBench.Yaml.Lexer

/-! # Nodes

A text holds one document: a tree of nodes. An alias names an anchor by its number. A name that is
anchored again takes the next number, and only new names move that number on; so a number may come to
stand for a later node.
-/

namespace NeighborBench.Yaml

inductive Node where
  | scalar (tag : Option String) (style : Style) (text : String)
  | alias (anchor : Nat)
  | sequence (tag : Option String) (items : List Node)
  | mapping (tag : Option String) (entries : List (Node × Node))

namespace Node

def empty : Node := scalar none .plain ""

mutual

/-- What a document is as long as: one for a scalar or an alias, two for the ends of a collection. -/
def length : Node → Nat
  | .scalar .. => 1
  | .alias _ => 1
  | .sequence _ items => 2 + itemsLength items
  | .mapping _ entries => 2 + entriesLength entries

def itemsLength : List Node → Nat
  | [] => 0
  | item :: rest => item.length + itemsLength rest

def entriesLength : List (Node × Node) → Nat
  | [] => 0
  | (key, value) :: rest => key.length + value.length + entriesLength rest

end

end Node

/-! ## Reading tokens -/

/-- What is known between two tokens. -/
structure Composition where
  rest : List Token
  /-- What the handles of tags stand for. -/
  handles : List (String × String)
  /-- The numbers of anchored names. -/
  anchors : List (String × Nat) := []
  /-- For a number of an anchor, the place of its node among all anchored nodes. -/
  places : List (Nat × Nat) := []
  /-- How many anchored nodes have begun. -/
  begun : Nat := 0
  /-- Anchored nodes that are complete, with their places. -/
  nodes : List (Nat × Node) := []

abbrev Compose := StateT Composition (Except Fault)

namespace Compose

def next : Compose (Option Token) := do
  let c ← get
  pure c.rest.head?

def nextIsOneOf (tokens : List Token) : Compose Bool := do
  let t ← next
  pure (t.any tokens.contains)

def skip : Compose Unit := modify fun c => { c with rest := c.rest.drop 1 }

/-- Takes the next token if it is this one. -/
def take (t : Token) : Compose Bool := do
  if (← next) = some t then
    skip
    pure true
  else pure false

/-! ## Properties of nodes -/

def resolveTag (t : Tag) : Compose String := do
  if t.handle.isEmpty then pure t.suffix
  else
    match Keyed.get? t.handle (← get).handles with
    | some front => pure (front ++ t.suffix)
    | none => throw .unknownHandle

def anchor? : Compose (Option String) := do
  match ← next with
  | some (.anchor name) =>
    skip
    pure (some name)
  | _ => pure none

def tag? : Compose (Option String) := do
  match ← next with
  | some (.tag t) =>
    skip
    some <$> resolveTag t
  | _ => pure none

/-- An anchor and a tag, in any order. -/
def properties : Compose (Option String × Option String) := do
  match ← anchor? with
  | some name => pure (some name, ← tag?)
  | none =>
    let tag ← tag?
    pure (← anchor?, tag)

/-- Gives an anchored name its number, and answers the place of its node. -/
def beginAnchor (name : String) : Compose Nat :=
  modifyGet fun c =>
    let number := c.anchors.length
    (c.begun, { c with
      anchors := Keyed.put name number c.anchors
      places := (number, c.begun) :: c.places
      begun := c.begun + 1 })

def finishAnchor (place : Nat) (node : Node) : Compose Unit :=
  modify fun c => { c with nodes := (place, node) :: c.nodes }

def aliasOf (name : String) : Compose Node := do
  match Keyed.get? name (← get).anchors with
  | some number => pure (.alias number)
  | none => throw .unknownAnchor

/-- The tag that asks for no type. -/
def plainTag : String := "!"

/-! ## Nodes -/

mutual

/-- A node; one of a block only where `block` holds, and a sequence that stands at the column of its
key where `indentless` holds. The fuel bounds the number of tokens. -/
def node (block indentless : Bool) : Nat → Compose Node
  | 0 => throw .tooDeep
  | fuel + 1 => do
    match ← next with
    | some (.alias name) =>
      skip
      aliasOf name
    | _ =>
      let (anchor, tag) ← properties
      match anchor with
      | none => content block indentless false tag fuel
      | some name =>
        let place ← beginAnchor name
        let found ← content block indentless true tag fuel
        finishAnchor place found
        pure found

def content (block indentless anchored : Bool) (tag : Option String) : Nat → Compose Node
  | 0 => throw .tooDeep
  | fuel + 1 => do
    match ← next with
    | some (.scalar style text) =>
      skip
      pure (.scalar (tag.filter (· ≠ plainTag)) style text)
    | some .flowSequence =>
      skip
      .sequence tag <$> flowItems true fuel
    | some .flowMapping =>
      skip
      .mapping tag <$> flowEntries true fuel
    | some t =>
      if indentless && t = .blockEntry then .sequence tag <$> plainItems fuel
      else if block && t = .blockSequence then
        skip
        .sequence tag <$> blockItems fuel
      else if block && t = .blockMapping then
        skip
        .mapping tag <$> blockEntries fuel
      else if anchored || tag.isSome then pure (.scalar tag .plain "")
      else throw (.unexpected "node content")
    | none =>
      if anchored || tag.isSome then pure (.scalar tag .plain "")
      else throw (.unexpected "node content")

/-- A node unless one of these tokens follows. -/
def nodeUnless (block indentless : Bool) (tokens : List Token) : Nat → Compose Node
  | 0 => throw .tooDeep
  | fuel + 1 => do
    if ← nextIsOneOf tokens then pure .empty else node block indentless fuel

def blockItems : Nat → Compose (List Node)
  | 0 => throw .tooDeep
  | fuel + 1 => do
    if ← take .blockEntry then
      let item ← nodeUnless true false [.blockEntry, .blockEnd] fuel
      (item :: ·) <$> blockItems fuel
    else if ← take .blockEnd then pure []
    else throw (.unexpected "'-' indicator")

/-- Items at the column of the key that they belong to. -/
def plainItems : Nat → Compose (List Node)
  | 0 => throw .tooDeep
  | fuel + 1 => do
    if ← take .blockEntry then
      let item ← nodeUnless true false [.blockEntry, .key, .value, .blockEnd] fuel
      (item :: ·) <$> plainItems fuel
    else pure []

def blockEntries : Nat → Compose (List (Node × Node))
  | 0 => throw .tooDeep
  | fuel + 1 => do
    if ← take .key then
      let key ← nodeUnless true true [.key, .value, .blockEnd] fuel
      let value ←
        if ← take .value then nodeUnless true true [.key, .value, .blockEnd] fuel
        else pure .empty
      ((key, value) :: ·) <$> blockEntries fuel
    else if ← take .blockEnd then pure []
    else throw (.unexpected "key")

def flowItems (first : Bool) : Nat → Compose (List Node)
  | 0 => throw .tooDeep
  | fuel + 1 => do
    if ← take .flowSequenceEnd then pure []
    else
      if !first then
        if !(← take .flowEntry) then throw (.unexpected "',' or ']'")
      if ← take .key then
        let pair ← flowPair fuel
        (pair :: ·) <$> flowItems false fuel
      else if ← take .flowSequenceEnd then pure []
      else
        let item ← node false false fuel
        (item :: ·) <$> flowItems false fuel

/-- A mapping of one entry in a sequence. Where its key is missing, the token that shows this is
passed over. -/
def flowPair : Nat → Compose Node
  | 0 => throw .tooDeep
  | fuel + 1 => do
    let key ←
      if ← nextIsOneOf [.value, .flowEntry, .flowSequenceEnd] then
        skip
        pure .empty
      else node false false fuel
    let value ←
      if ← take .value then nodeUnless false false [.flowEntry, .flowSequenceEnd] fuel
      else pure .empty
    pure (.mapping none [(key, value)])

def flowEntries (first : Bool) : Nat → Compose (List (Node × Node))
  | 0 => throw .tooDeep
  | fuel + 1 => do
    if ← take .flowMappingEnd then pure []
    else
      if !first then
        if !(← take .flowEntry) then throw (.unexpected "',' or '\x7d'")
      if ← take .key then
        let key ← nodeUnless false false [.value, .flowEntry, .flowMappingEnd] fuel
        let value ←
          if ← take .value then nodeUnless false false [.flowEntry, .flowMappingEnd] fuel
          else pure .empty
        ((key, value) :: ·) <$> flowEntries false fuel
      else if ← take .flowMappingEnd then pure []
      else
        let key ← node false false fuel
        ((key, .empty) :: ·) <$> flowEntries false fuel

end

end Compose

end NeighborBench.Yaml
