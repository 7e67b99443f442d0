import NeighborBench.Yaml.Block
import NeighborBench.Yaml.Property

/-! # Directives -/

namespace NeighborBench.Yaml

inductive Directive where
  | version (major minor : Nat)
  | handle (handle uri : String)
  deriving DecidableEq, Repr

namespace Directive

def digitLimit : Nat := 9

def number (gs : Glyphs) : Except Fault (Nat × Glyphs) :=
  let (digits, rest) := Glyphs.spanOf Char.isDigit gs
  match Text.digitsValue? 10 digits with
  | some n =>
    if digits.isEmpty || digitLimit < digits.length then .error .badDirective else .ok (n, rest)
  | none => .error .badDirective

def versionOf (gs : Glyphs) : Except Fault (Directive × Glyphs) := do
  let (major, rest) ← number (Glyphs.skip isBlank gs)
  if Glyphs.front rest ≠ '.' then throw .badDirective
  let (minor, rest) ← number (rest.drop 1)
  pure (version major minor, rest)

/-- A lone exclamation mark is a handle here as well. -/
def handleOf (gs : Glyphs) : Except Fault (Directive × Glyphs) := do
  let start := Glyphs.skip isBlank gs
  let (name, rest) ←
    match tagHandle start with
    | some found => pure found
    | none =>
      if Glyphs.front start = '!' then pure ("!", start.drop 1) else throw .badDirective
  if !isBlank (Glyphs.front rest) then throw .badDirective
  let (uri, rest) ← uri true (Glyphs.skip isBlank rest) >>= nonempty
  if !isEdge (Glyphs.front rest) then throw .badDirective
  pure (handle name uri, rest)

/-- A directive whose percent sign was taken, to the end of its line. -/
def read (gs : Glyphs) : Except Fault (Directive × Glyphs) := do
  let (name, rest) := Glyphs.spanOf isWordChar gs
  if !isEdge (Glyphs.front rest) then throw .badDirective
  let (directive, rest) ←
    match String.ofList name with
    | "YAML" => versionOf rest
    | "TAG" => handleOf rest
    | _ => throw .badDirective
  match finishLine rest with
  | some rest => pure (directive, rest)
  | none => throw .badDirective

end Directive

end NeighborBench.Yaml
