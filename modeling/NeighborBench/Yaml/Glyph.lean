import NeighborBench.Yaml.Fault

/-! # Characters with their places

A line break of one or two characters is one glyph. The end of the text is a glyph too, with a
character that no text may hold.
-/

namespace NeighborBench.Yaml

structure Glyph where
  char : Char
  /-- The number of characters before it. -/
  index : Nat
  line : Nat
  column : Nat
  deriving DecidableEq, Repr

abbrev Glyphs := List Glyph

/-! ## Classes of characters -/

def endMark : Char := '\x00'

def isBreak (c : Char) : Bool := c = '\n' || c = '\u2028' || c = '\u2029'

def isBlank (c : Char) : Bool := c = ' ' || c = '\t'

/-- A character at which a word ends. -/
def isGap (c : Char) : Bool := isBlank c || isBreak c

/-- A gap or the end of the text. -/
def isEdge (c : Char) : Bool := isGap c || c = endMark

def endsLine (c : Char) : Bool := isBreak c || c = endMark

def isWordChar (c : Char) : Bool := c.isAlphanum || c = '_' || c = '-'

def isOneOf (marks : String) (c : Char) : Bool := marks.toList.contains c

def byteOrderMark : Char := '\uFEFF'

/-- Control characters are left out, but for the tab and those that break lines. -/
def isAllowed (c : Char) : Bool :=
  let n := c.toNat
  n = 9 || n = 10 || n = 13 || (0x20 ≤ n && n ≤ 0x7E) || n = 0x85 || (0xA0 ≤ n && n ≤ 0xD7FF) ||
    (0xE000 ≤ n && n ≤ 0xFFFD) || 0x10000 ≤ n

/-! ## Glyphs of a text -/

/-- The character as it is kept: breaks that need not be told apart are one. -/
def normalized (c : Char) : Char := if c = '\r' || c = '\u0085' then '\n' else c

def glyphsFrom (index line column : Nat) : List Char → Except Fault Glyphs
  | [] => .ok [⟨endMark, index, line, column⟩]
  | '\r' :: '\n' :: rest =>
    (⟨'\n', index, line, column⟩ :: ·) <$> glyphsFrom (index + 2) (line + 1) 0 rest
  | c :: rest =>
    if !isAllowed c then .error .forbiddenCharacter
    else if isBreak (normalized c) then
      (⟨normalized c, index, line, column⟩ :: ·) <$> glyphsFrom (index + 1) (line + 1) 0 rest
    else (⟨c, index, line, column⟩ :: ·) <$> glyphsFrom (index + 1) line (column + 1) rest

/-- A byte order mark in front is no part of the text. -/
def glyphs (text : String) : Except Fault Glyphs :=
  match text.toList with
  | [] => glyphsFrom 0 0 0 []
  | c :: rest => if c = byteOrderMark then glyphsFrom 0 0 0 rest else glyphsFrom 0 0 0 (c :: rest)

namespace Glyphs

def front (gs : Glyphs) : Char := gs.head?.elim endMark (·.char)

def column (gs : Glyphs) : Nat := gs.head?.elim 0 (·.column)

def chars (gs : Glyphs) : List Char := gs.map (·.char)

/-- The glyphs while a class holds them, and the rest. -/
def spanOf (p : Char → Bool) (gs : Glyphs) : List Char × Glyphs :=
  (chars (gs.takeWhile fun g => p g.char), gs.dropWhile fun g => p g.char)

def skip (p : Char → Bool) (gs : Glyphs) : Glyphs := gs.dropWhile fun g => p g.char

/-- A line that begins with a character three times, and then a gap or nothing. -/
def isMark (c : Char) : Glyphs → Bool
  | a :: b :: d :: rest =>
    a.column = 0 && a.char = c && b.char = c && d.char = c && isEdge (front rest)
  | _ => false

/-- The line that begins or ends a document. -/
def isDocumentMark (gs : Glyphs) : Bool := isMark '-' gs || isMark '.' gs

end Glyphs

end NeighborBench.Yaml
