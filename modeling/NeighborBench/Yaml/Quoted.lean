import NeighborBench.Text.Integer
import NeighborBench.Yaml.Plain

/-! # Scalars between quotes -/

namespace NeighborBench.Yaml

/-- What stands between quotes, with its escapes resolved. -/
inductive Piece where
  | char (c : Char)
  | gap (c : Char)
  /-- An escaped line break. -/
  | joint

abbrev Pieces := Except Fault (List Piece × Glyphs)

def Pieces.push (piece : Piece) (more : Pieces) : Pieces := more.map fun (ps, rest) => (piece :: ps, rest)

/-- A quote is written twice. -/
def singlePieces : Glyphs → Pieces
  | [] => .error .unfinishedQuote
  | g :: rest =>
    if Glyphs.isDocumentMark (g :: rest) then .error .markInQuote
    else if g.char = endMark then .error .unfinishedQuote
    else if isGap g.char then (singlePieces rest).push (.gap g.char)
    else if g.char = '\'' then
      match rest with
      | [] => .ok ([], [])
      | q :: more => if q.char = '\'' then (singlePieces more).push (.char '\'') else .ok ([], q :: more)
    else (singlePieces rest).push (.char g.char)

/-! ## Escapes -/

/-- An escape of one character. -/
def escaped? : Char → Option Char
  | '0' => some '\x00'
  | 'a' => some '\x07'
  | 'b' => some '\x08'
  | 't' => some '\t'
  | '\t' => some '\t'
  | 'n' => some '\n'
  | 'v' => some '\x0b'
  | 'f' => some '\x0c'
  | 'r' => some '\r'
  | 'e' => some '\x1b'
  | ' ' => some ' '
  | '"' => some '"'
  | '/' => some '/'
  | '\\' => some '\\'
  | 'N' => some '\u0085'
  | '_' => some '\u00a0'
  | 'L' => some '\u2028'
  | 'P' => some '\u2029'
  | _ => none

/-- How many digits number the character of an escape. -/
def digitCount? : Char → Option Nat
  | 'x' => some 2
  | 'u' => some 4
  | 'U' => some 8
  | _ => none

/-- The character that digits number. -/
def numbered? (digits : List Char) : Option Char := do
  let n ← Text.digitsValue? 16 digits
  if h : n.isValidChar then some (Char.ofNatAux n h) else none

/-- Pieces after a double quote. The first argument holds digits of an escape that are still to
come and those that came. -/
def doublePieces (digits : Option (Nat × List Char)) : Glyphs → Pieces
  | [] => .error .unfinishedQuote
  | g :: rest =>
    match digits with
    | some (more, found) =>
      let found := found ++ [g.char]
      if more ≤ 1 then
        match numbered? found with
        | some c => (doublePieces none rest).push (.char c)
        | none => .error .badEscape
      else doublePieces (some (more - 1, found)) rest
    | none =>
      if Glyphs.isDocumentMark (g :: rest) then .error .markInQuote
      else if g.char = endMark then .error .unfinishedQuote
      else if isGap g.char then (doublePieces none rest).push (.gap g.char)
      else if g.char = '"' then .ok ([], rest)
      else if g.char = '\\' then
        match rest with
        | [] => .error .unfinishedQuote
        | e :: more =>
          if isBreak e.char then (doublePieces none more).push .joint
          else
            match escaped? e.char, digitCount? e.char with
            | some c, _ => (doublePieces none more).push (.char c)
            | none, some count => doublePieces (some (count, [])) more
            | none, none => .error .badEscape
      else (doublePieces none rest).push (.char g.char)

/-! ## The text of a quote -/

/-- Folds the gaps between the pieces. -/
def piecesText (gap : Gap) : List Piece → List Char
  | [] => gap.text
  | .char c :: rest => gap.text ++ c :: piecesText {} rest
  | .gap c :: rest => piecesText (gap.push c) rest
  | .joint :: rest => gap.text ++ piecesText { joined := true } rest

/-- The text of a quote whose opening mark was taken, and what follows it. -/
def quotedText (double : Bool) (gs : Glyphs) : Except Fault (List Char × Glyphs) :=
  let pieces := if double then doublePieces none gs else singlePieces gs
  pieces.map fun (ps, rest) => (piecesText {} ps, rest)

end NeighborBench.Yaml
