import NeighborBench.Yaml.Plain
import NeighborBench.Yaml.Quoted
import NeighborBench.Yaml.Token

/-! # Tokens of a text

A key is known as one only when its colon comes. Until then the place where it began is kept, and the
colon puts the tokens of a key, and of a mapping, in front of what stands there.
-/

namespace NeighborBench.Yaml

/-- A place where a key may have begun. -/
structure KeyStart where
  /-- Nothing but a key may stand there. -/
  required : Bool
  /-- The number of tokens in front of it. -/
  tokens : Nat
  index : Nat
  line : Nat
  column : Nat

structure Lexer where
  /-- The last token first. -/
  tokens : List Token := []
  count : Nat := 0
  /-- Columns of the open blocks, the innermost first. -/
  blocks : List Nat := []
  /-- The key of the innermost flow collection, or of the blocks outside all of them. -/
  key : Option KeyStart := none
  /-- The keys further out, one for each open flow collection. -/
  outer : List (Option KeyStart) := []
  /-- A key may begin here. -/
  keyAllowed : Bool := true

namespace Lexer

def inFlow (l : Lexer) : Bool := !l.outer.isEmpty

def emit (l : Lexer) (t : Token) : Lexer := { l with tokens := t :: l.tokens, count := l.count + 1 }

/-- Puts a token behind the first `place` tokens. -/
def insertAt (l : Lexer) (place : Nat) (t : Token) : Lexer :=
  { l with tokens := l.tokens.insertIdx (l.count - place) t, count := l.count + 1 }

/-! ## Blocks -/

/-- Opens a block at a column right of all open ones, its token behind the first `place` tokens. -/
def openBlock (l : Lexer) (column place : Nat) (t : Token) : Lexer :=
  if !l.inFlow && l.blocks.head?.all (· < column) then
    { l.insertAt place t with blocks := column :: l.blocks }
  else l

/-- Closes blocks that stand right of a column, or all of them. -/
def closeBlocks (l : Lexer) (column : Option Nat) : Lexer :=
  if l.inFlow then l
  else
    let closed := (l.blocks.takeWhile fun b => column.all (· < b)).length
    { l with
      tokens := List.replicate closed .blockEnd ++ l.tokens
      count := l.count + closed
      blocks := l.blocks.drop closed }

/-- The column that the lines of a plain scalar must reach. -/
def innerColumn (l : Lexer) : Nat := l.blocks.head?.elim 0 (· + 1)

/-! ## Keys -/

def keyLengthLimit : Nat := 1024

/-- A key ends on the line where it began, and is not too long. -/
def expire (g : Glyph) : Option KeyStart → Except Fault (Option KeyStart)
  | none => .ok none
  | some k =>
    if k.line < g.line || k.index + keyLengthLimit < g.index then
      if k.required then .error .missingColon else .ok none
    else .ok (some k)

def expireKeys (l : Lexer) (g : Glyph) : Except Fault Lexer := do
  let outer ← l.outer.mapM (expire g)
  let key ← expire g l.key
  pure { l with key, outer }

def dropKey (l : Lexer) : Except Fault Lexer :=
  if l.key.any (·.required) then .error .missingColon else .ok { l with key := none }

/-- Keeps a place where a key may begin. -/
def saveKey (l : Lexer) (g : Glyph) : Except Fault Lexer :=
  if l.keyAllowed then do
    let l ← l.dropKey
    let required := !l.inFlow && l.blocks.head? = some g.column
    pure { l with key := some ⟨required, l.count, g.index, g.line, g.column⟩ }
  else pure l

def allowKey (allowed : Bool) (l : Lexer) : Lexer := { l with keyAllowed := allowed }

/-! ## Gaps between tokens -/

/-- Passes over blanks, comments and breaks. A break in a block lets a key begin; where one may, a
tab is no blank. -/
def skipGap (flow : Bool) (inComment allowed : Bool) : Glyphs → Bool × Glyphs
  | [] => (allowed, [])
  | g :: rest =>
    if isBreak g.char then skipGap flow false (allowed || !flow) rest
    else if g.char = endMark then (allowed, g :: rest)
    else if inComment || g.char = ' ' || (g.char = '\t' && (flow || !allowed)) then
      skipGap flow inComment allowed rest
    else if g.char = '#' then skipGap flow true allowed rest
    else if g.char = byteOrderMark && g.index = 0 then skipGap flow false allowed rest
    else (allowed, g :: rest)

/-! ## One token -/

abbrev Step := Except Fault (Lexer × Glyphs)

def endBlocks (l : Lexer) : Except Fault Lexer := do
  let l ← (l.closeBlocks none).dropKey
  pure (l.allowKey false)

def documentMark (l : Lexer) (t : Token) (gs : Glyphs) : Step := do
  let l ← l.endBlocks
  pure (l.emit t, gs.drop 3)

def directive (l : Lexer) (rest : Glyphs) : Step := do
  let l ← l.endBlocks
  let (d, rest) ← Directive.read rest
  pure (l.emit (.directive d), rest)

def openFlow (l : Lexer) (t : Token) (g : Glyph) (rest : Glyphs) : Step := do
  let l ← l.saveKey g
  pure ({ l with key := none, outer := l.key :: l.outer, keyAllowed := true }.emit t, rest)

def closeFlow (l : Lexer) (t : Token) (rest : Glyphs) : Step := do
  let l ← l.dropKey
  let l := match l.outer with
    | [] => l
    | key :: outer => { l with key, outer }
  pure ((l.allowKey false).emit t, rest)

def flowEntry (l : Lexer) (rest : Glyphs) : Step := do
  let l ← l.dropKey
  pure ((l.allowKey true).emit .flowEntry, rest)

/-- Outside flow collections a mark opens its block where a key might begin. -/
def openAtMark (l : Lexer) (g : Glyph) (what : String) (t : Token) : Except Fault Lexer :=
  if l.inFlow then .ok l
  else if l.keyAllowed then .ok (l.openBlock g.column l.count t)
  else .error (.misplaced what)

def blockEntry (l : Lexer) (g : Glyph) (rest : Glyphs) : Step := do
  let l ← l.openAtMark g "block sequence entries" .blockSequence
  let l ← l.dropKey
  pure ((l.allowKey true).emit .blockEntry, rest)

def explicitKey (l : Lexer) (g : Glyph) (rest : Glyphs) : Step := do
  let l ← l.openAtMark g "mapping keys" .blockMapping
  let l ← l.dropKey
  pure ((l.allowKey !l.inFlow).emit .key, rest)

def value (l : Lexer) (g : Glyph) (rest : Glyphs) : Step :=
  match l.key with
  | some k =>
    let l := (l.insertAt k.tokens .key).openBlock k.column k.tokens .blockMapping
    .ok ({ l with key := none, keyAllowed := false }.emit .value, rest)
  | none => do
    let l ← l.openAtMark g "mapping values" .blockMapping
    pure ((l.allowKey !l.inFlow).emit .value, rest)

/-- A token that may begin a key, and after which none begins. -/
def inKey (l : Lexer) (g : Glyph) (read : Except Fault (Token × Glyphs)) : Step := do
  let l ← l.saveKey g
  let (t, rest) ← read
  pure ((l.allowKey false).emit t, rest)

def blockScalar (l : Lexer) (folded : Bool) (rest : Glyphs) : Step := do
  let l ← l.dropKey
  let (text, rest) ← blockText folded l.blocks.head? rest
  let style := if folded then .folded else .literal
  pure ((l.allowKey true).emit (.scalar style (String.ofList text)), rest)

def quoted (double : Bool) (rest : Glyphs) : Except Fault (Token × Glyphs) := do
  let (text, rest) ← quotedText double rest
  let style := if double then .doubleQuoted else .singleQuoted
  pure (.scalar style (String.ofList text), rest)

def plain (l : Lexer) (g : Glyph) (rest : Glyphs) : Step := do
  let l ← l.saveKey g
  let found ← plainText l.inFlow l.innerColumn none (g :: rest)
  pure ((l.allowKey found.brokenOff).emit (.scalar .plain (String.ofList found.text)), found.rest)

def beginsPlain (l : Lexer) (c next : Char) : Bool :=
  !(isEdge c || isOneOf "-?:,[]\x7b\x7d#&*!|>\x27\"%@\x60" c) || (c = '-' && !isBlank next) ||
    (!l.inFlow && (c = '?' || c = ':') && !isEdge next)

/-- Takes a token that begins with a glyph. -/
def token (l : Lexer) (g : Glyph) (rest : Glyphs) : Step :=
  let c := g.char
  let next := Glyphs.front rest
  if g.column = 0 && c = '%' then l.directive rest
  else if Glyphs.isMark '-' (g :: rest) then l.documentMark .documentStart (g :: rest)
  else if Glyphs.isMark '.' (g :: rest) then l.documentMark .documentEnd (g :: rest)
  else if c = '[' then l.openFlow .flowSequence g rest
  else if c = '{' then l.openFlow .flowMapping g rest
  else if c = ']' then l.closeFlow .flowSequenceEnd rest
  else if c = '}' then l.closeFlow .flowMappingEnd rest
  else if c = ',' then l.flowEntry rest
  else if c = '-' && isEdge next then l.blockEntry g rest
  else if c = '?' && (l.inFlow || isEdge next) then l.explicitKey g rest
  else if c = ':' && (l.inFlow || isEdge next) then l.value g rest
  else if c = '*' then
    l.inKey g ((anchorName rest).map fun (name, rest) => (.alias name, rest))
  else if c = '&' then
    l.inKey g ((anchorName rest).map fun (name, rest) => (.anchor name, rest))
  else if c = '!' then
    l.inKey g ((tag l.inFlow (g :: rest)).map fun (tag, rest) => (.tag tag, rest))
  else if c = '|' && !l.inFlow then l.blockScalar false rest
  else if c = '>' && !l.inFlow then l.blockScalar true rest
  else if c = '\'' then l.inKey g (quoted false rest)
  else if c = '"' then l.inKey g (quoted true rest)
  else if l.beginsPlain c next then l.plain g rest
  else .error .noTokenStart

/-- Takes tokens to the end of the text. The fuel bounds their number. -/
def run (l : Lexer) : Nat → Glyphs → Except Fault Lexer
  | 0, _ => .ok l
  | fuel + 1, gs =>
    match skipGap l.inFlow false l.keyAllowed gs with
    | (_, []) => l.endBlocks
    | (allowed, g :: rest) => do
      let l ← (l.allowKey allowed).expireKeys g
      let l := l.closeBlocks (some g.column)
      if g.char = endMark then l.endBlocks
      else
        let (l, rest) ← l.token g rest
        l.run fuel rest

end Lexer

def tokens (text : String) : Except Fault (List Token) := do
  let gs ← glyphs text
  let l ← Lexer.run {} (gs.length + 1) gs
  pure l.tokens.reverse

end NeighborBench.Yaml
