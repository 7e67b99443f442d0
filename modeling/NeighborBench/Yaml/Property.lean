import NeighborBench.Yaml.Glyph
import NeighborBench.Text.Percent

/-! # Anchors and tags -/

namespace NeighborBench.Yaml

/-! ## Anchors -/

/-- The name of an anchor or alias whose mark was taken. -/
def anchorName (gs : Glyphs) : Except Fault (String × Glyphs) :=
  let (name, rest) := Glyphs.spanOf isWordChar gs
  let c := Glyphs.front rest
  if !name.isEmpty && (isEdge c || isOneOf "?:,]\x7d%@\x60" c) then .ok (String.ofList name, rest)
  else .error .badAnchor

/-! ## Tags -/

/-- A tag as it is written: a handle that stands for the first part of its text, and the second
part. -/
structure Tag where
  handle : String
  suffix : String
  deriving DecidableEq, Repr

def isUriChar (inBrackets : Bool) (c : Char) : Bool :=
  isWordChar c || isOneOf ";/?:@&=+$.%!~*'()" c || (inBrackets && isOneOf ",[]" c)

/-- A URI, with characters in place of its escapes. -/
def uri (inBrackets : Bool) (gs : Glyphs) : Except Fault (String × Glyphs) :=
  let (chars, rest) := Glyphs.spanOf (isUriChar inBrackets) gs
  match (Text.percentDecoded? chars).bind Text.utf8? with
  | some text => .ok (text, rest)
  | none => .error .badTag

def nonempty (found : String × Glyphs) : Except Fault (String × Glyphs) :=
  if found.1.isEmpty then .error .badTag else .ok found

/-- A handle begins with an exclamation mark and ends with one. -/
def tagHandle (gs : Glyphs) : Option (String × Glyphs) :=
  match gs with
  | [] => none
  | g :: rest =>
    let (name, rest) := Glyphs.spanOf isWordChar rest
    if g.char = '!' && Glyphs.front rest = '!' then
      some (String.ofList ('!' :: name ++ ['!']), rest.drop 1)
    else none

/-- The tag at an exclamation mark, without regard to what follows it. -/
def tagText (gs : Glyphs) : Except Fault (Tag × Glyphs) :=
  if Glyphs.front (gs.drop 1) = '<' then do
    let (suffix, rest) ← uri true (gs.drop 2) >>= nonempty
    if Glyphs.front rest = '>' then pure (⟨"", suffix⟩, rest.drop 1) else throw .badTag
  else
    match tagHandle gs with
    | some (handle, rest) => do
      let (suffix, rest) ← uri false rest >>= nonempty
      pure (⟨handle, suffix⟩, rest)
    | none => do
      let (suffix, rest) ← uri false (gs.drop 1)
      pure (if suffix.isEmpty then ⟨"", "!"⟩ else ⟨"!", suffix⟩, rest)

/-- A tag, and a gap after it or, in a flow collection, a comma. -/
def tag (flow : Bool) (gs : Glyphs) : Except Fault (Tag × Glyphs) := do
  let (tag, rest) ← tagText gs
  let c := Glyphs.front rest
  if isEdge c || (flow && c = ',') then pure (tag, rest) else throw .badTag

end NeighborBench.Yaml
