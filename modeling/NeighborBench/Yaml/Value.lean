import NeighborBench.Yaml.Document
import NeighborBench.Yaml.Scalar

/-! # Documents as values

An alias stands for a copy of its node. Copies are counted, and so are collections inside one
another, so that a short text cannot stand for an endless value.
-/

namespace NeighborBench.Yaml

/-- Collections may stand so deep. -/
def depthLimit : Nat := 128

/-- Aliases followed for each unit of a document's length. -/
def aliasFactor : Nat := 100

/-- Reads values; the state is the number of aliases that may still be followed. -/
abbrev Reading := ReaderT Document (StateT Nat (Except Fault))

namespace Reading

def run {α : Type} (r : Reading α) (d : Document) : Except Fault α :=
  (ReaderT.run r d).run' (aliasFactor * d.root.length)

/-- The node itself, or the one that an alias stands for. -/
def target : Node → Reading Node
  | .alias number => do
    match ← getThe Nat with
    | 0 => throw .tooManyAliases
    | left + 1 =>
      set left
      match (← read).anchored? number with
      | some node => pure node
      | none => throw .unknownAnchor
  | node => pure node

/-! ## Values of any type -/

/-- Any scalar is a text as it is written. -/
def text (n : Node) : Reading String := do
  match ← target n with
  | .scalar _ _ text => pure text
  | _ => throw (.wrongType "a string")

def checkTag (tag : Option String) : Reading Unit :=
  if tag.any Scalar.isForeign then throw (.wrongType "a value without a tag") else pure ()

/-- The value of a node that nests so many collections at most. -/
def json : Nat → Node → Reading Json
  | depth, n => do
    match ← target n, depth with
    | .scalar tag style text, _ =>
      match Scalar.value tag style text with
      | .ok value => pure value
      | .error fault => throw fault
    | .sequence tag items, depth + 1 =>
      checkTag tag
      .array <$> items.mapM (json depth)
    | .mapping tag entries, depth + 1 =>
      checkTag tag
      let fields ← entries.mapM fun (key, value) => do
        let key ← text key
        let value ← json depth value
        pure (key, value)
      pure (.object (Keyed.ofList fields))
    | .alias _, _ => throw .unknownAnchor
    | _, 0 => throw .tooDeep

/-! ## Values of a known type -/

/-- Whether a node is a null where a value may be left out. -/
def isAbsent : Node → Except Fault Bool
  | .scalar none .plain text => .ok (text.isEmpty || Scalar.isNull text)
  | .scalar (some tag) .plain text =>
    if tag ≠ Scalar.coreTag "null" then .ok false
    else if Scalar.isNull text then .ok true
    else .error (.wrongType "null")
  | _ => .ok false

def optional {α : Type} (read : Node → Reading α) (n : Node) : Reading (Option α) := do
  let n ← target n
  match isAbsent n with
  | .error fault => throw fault
  | .ok true => pure none
  | .ok false => some <$> read n

/-- The text of a scalar that may be of a type: a plain one, or a literal one tagged as it. -/
def typedText? (type : String) : Node → Option String
  | .scalar _ .plain text => some text
  | .scalar tag .literal text => if tag = some (Scalar.coreTag type) then some text else none
  | _ => none

def nat (highest : Nat) (n : Node) : Reading Nat := do
  let n ← target n
  match ((typedText? "int" n).map String.toList).bind (Scalar.unsigned? highest) with
  | some value => pure value.toNat
  | none => throw (.wrongType "a number in range")

def bool (n : Node) : Reading Bool := do
  let n ← target n
  match (typedText? "bool" n).bind Scalar.bool? with
  | some value => pure value
  | none => throw (.wrongType "a boolean")

def isBlankScalar : Node → Bool
  | .scalar _ .plain "" => true
  | _ => false

/-- The items of a sequence; a value left out is an empty one. -/
def items (n : Node) : Reading (List Node) := do
  match ← target n with
  | .sequence _ items => pure items
  | n => if isBlankScalar n then pure [] else throw (.wrongType "a sequence")

/-- The entries of a mapping; a value left out is an empty one. -/
def entries (n : Node) : Reading (List (Node × Node)) := do
  match ← target n with
  | .mapping _ entries => pure entries
  | n => if isBlankScalar n then pure [] else throw (.wrongType "a mapping")

/-- A mapping with values of any type; of a key that is repeated the last one counts. -/
def fields (depth : Nat) (n : Node) : Reading Fields := do
  let found ← (← entries n).mapM fun (key, value) => do
    let key ← text key
    let value ← json depth value
    pure (key, value)
  pure (Keyed.ofList found)

end Reading

end NeighborBench.Yaml
