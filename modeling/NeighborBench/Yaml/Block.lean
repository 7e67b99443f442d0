import NeighborBench.Yaml.Glyph

/-! # Block scalars

Lines at one column. In the folded style a single break between two lines that begin with a word is a
space.
-/

namespace NeighborBench.Yaml

/-- What becomes of the breaks at the end: none is left, one is, or all are. -/
inductive Chomp where
  | strip
  | clip
  | keep
  deriving DecidableEq, Repr

/-! ## The header -/

structure BlockHeader where
  chomp : Chomp := .clip
  /-- Columns between the parent and the lines, if they are given. -/
  indent : Option Nat := none

def chompOf? (c : Char) : Option Chomp :=
  if c = '+' then some .keep else if c = '-' then some .strip else none

def indentOf? (c : Char) : Option Nat :=
  if '0' ≤ c ∧ c ≤ '9' then some (c.toNat - '0'.toNat) else none

/-- A chomping mark and a digit in any order, each at most once. -/
def blockHeader (gs : Glyphs) : BlockHeader × Glyphs :=
  match chompOf? (Glyphs.front gs), indentOf? (Glyphs.front gs) with
  | some chomp, _ =>
    match indentOf? (Glyphs.front (gs.drop 1)) with
    | some n => (⟨chomp, some n⟩, gs.drop 2)
    | none => (⟨chomp, none⟩, gs.drop 1)
  | none, some n =>
    match chompOf? (Glyphs.front (gs.drop 1)) with
    | some chomp => (⟨chomp, some n⟩, gs.drop 2)
    | none => (⟨.clip, some n⟩, gs.drop 1)
  | none, none => ({}, gs)

def skipComment (gs : Glyphs) : Glyphs :=
  if Glyphs.front gs = '#' then Glyphs.skip (fun c => !endsLine c) gs else gs

/-- Passes over blanks, a comment and the end of the line. -/
def finishLine (gs : Glyphs) : Option Glyphs :=
  match skipComment (Glyphs.skip isBlank gs) with
  | [] => some []
  | g :: rest =>
    if isBreak g.char then some rest else if g.char = endMark then some (g :: rest) else none

/-! ## The lines -/

/-- Empty lines, and the spaces before the next line that is not empty. -/
structure EmptyLines where
  breaks : List Char
  /-- The furthest column that spaces reach. -/
  deepest : Nat
  rest : Glyphs

/-- Spaces left of the column are passed over; all spaces are where the column is still unknown. -/
def emptyLines (column : Option Nat) : Glyphs → Except Fault EmptyLines
  | [] => .ok ⟨[], 0, []⟩
  | g :: rest =>
    let outside := column.all (g.column < ·)
    if outside && g.char = ' ' then emptyLines column rest
    else if outside && g.char = '\t' then .error .tabIndentation
    else if isBreak g.char then do
      let more ← emptyLines column rest
      pure ⟨g.char :: more.breaks, max g.column more.deepest, more.rest⟩
    else .ok ⟨[], g.column, g :: rest⟩

/-- A line, the break at its end, and the breaks of the empty lines after it. -/
structure BlockLine where
  text : List Char
  ending : List Char
  empty : List Char

def BlockLine.beginsBlank (line : BlockLine) : Bool := line.text.head?.any isBlank

/-- The fuel bounds the number of lines. -/
def blockLines (column : Nat) : Nat → Glyphs → Except Fault (List BlockLine × Glyphs)
  | 0, gs => .ok ([], gs)
  | fuel + 1, gs =>
    if Glyphs.column gs = column && Glyphs.front gs ≠ endMark then do
      let (text, rest) := Glyphs.spanOf (fun c => !endsLine c) gs
      let (ending, rest) := match rest with
        | g :: more => if isBreak g.char then ([g.char], more) else ([], g :: more)
        | [] => ([], [])
      let empty ← emptyLines (some column) rest
      let (lines, rest) ← blockLines column fuel empty.rest
      pure (⟨text, ending, empty.breaks⟩ :: lines, rest)
    else .ok ([], gs)

/-! ## The text -/

/-- What stands between two lines. -/
def betweenLines (folded : Bool) (line next : BlockLine) : List Char :=
  if folded && line.ending = ['\n'] && !line.beginsBlank && !next.beginsBlank then
    if line.empty.isEmpty then [' '] else line.empty
  else line.ending ++ line.empty

def chomped (chomp : Chomp) (last : BlockLine) : List Char :=
  match chomp with
  | .strip => []
  | .clip => last.ending
  | .keep => last.ending ++ last.empty

def linesText (folded : Bool) (chomp : Chomp) : List BlockLine → List Char
  | [] => []
  | [last] => last.text ++ chomped chomp last
  | line :: next :: more =>
    line.text ++ betweenLines folded line next ++ linesText folded chomp (next :: more)

/-- A block scalar after its mark. `parent` is the column that its lines must be right of, if there
is one. -/
def blockText (folded : Bool) (parent : Option Nat) (gs : Glyphs) :
    Except Fault (List Char × Glyphs) := do
  let (header, rest) := blockHeader gs
  if header.indent = some 0 then throw .badBlockHeader
  match finishLine rest with
  | none => throw .badBlockHeader
  | some rest =>
    let given := header.indent.map fun n => parent.getD 0 + n
    let first ← emptyLines given rest
    let column := given.getD (max first.deepest (max 1 (parent.elim 0 (· + 1))))
    let (lines, rest) ← blockLines column rest.length first.rest
    let body := linesText folded header.chomp lines
    if lines.isEmpty && header.chomp ≠ .keep then pure ([], rest)
    else pure (first.breaks ++ body, rest)

end NeighborBench.Yaml
