import NeighborBench.Yaml.Glyph

/-! # Words and the gaps between them

A gap without a break stands as it is. A single break in a gap is a space, and of several breaks the
first is dropped; blanks around breaks are dropped.
-/

namespace NeighborBench.Yaml

structure Gap where
  blanks : List Char := []
  breaks : List Char := []
  /-- The first break was escaped and stands for nothing. -/
  joined : Bool := false

namespace Gap

def isBroken (gap : Gap) : Bool := gap.joined || !gap.breaks.isEmpty

def push (gap : Gap) (c : Char) : Gap :=
  if isBreak c then { gap with breaks := gap.breaks ++ [c] }
  else if gap.isBroken then gap
  else { gap with blanks := gap.blanks ++ [c] }

def fold : List Char → List Char
  | ['\n'] => [' ']
  | '\n' :: more => more
  | breaks => breaks

def text (gap : Gap) : List Char :=
  if gap.joined then gap.breaks else if gap.breaks.isEmpty then gap.blanks else fold gap.breaks

end Gap

/-! ## Plain scalars -/

structure PlainText where
  text : List Char
  /-- The gap after the last word holds a break. -/
  brokenOff : Bool
  rest : Glyphs

def flowMarks : String := ",[]\x7b\x7d"

/-- A plain scalar whose lines stand at a column or further right, in a flow collection or not. The
gap after the last word is no part of it. -/
def plainText (flow : Bool) (column : Nat) (gap : Option Gap) : Glyphs → Except Fault PlainText
  | [] => .ok ⟨[], gap.any (·.isBroken), []⟩
  | g :: rest =>
    let stop : Except Fault PlainText := .ok ⟨[], gap.any (·.isBroken), g :: rest⟩
    if isGap g.char then
      if gap.any (·.isBroken) && g.char = '\t' && g.column < column then .error .tabIndentation
      else plainText flow column (some ((gap.getD {}).push g.char)) rest
    else if g.char = endMark then stop
    else if gap.isSome && ((!flow && g.column < column) || Glyphs.isDocumentMark (g :: rest)
        || g.char = '#') then stop
    else
      let next := Glyphs.front rest
      if flow && g.char = ':' && isOneOf ",?[]\x7b\x7d" next then .error (.misplaced "colons")
      else if (g.char = ':' && isEdge next) || (flow && isOneOf flowMarks g.char) then stop
      else do
        let more ← plainText flow column none rest
        pure { more with text := (gap.elim [] (·.text)) ++ g.char :: more.text }

end NeighborBench.Yaml
