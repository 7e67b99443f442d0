import NeighborBench.Json.Basic
import NeighborBench.Decimal.Shortest
import NeighborBench.Single
import NeighborBench.Text.Quoted

/-! # JSON text

Fields are written in the order in which the object holds them.
-/

namespace NeighborBench.Json

/-! ## Numbers -/

/-- Decimal exponents from the first up to the second are written out by position. -/
def positional : Int × Int := (-5, 16)

/-- Digits with a point among or beside them. -/
def positionalChars (digits : List Char) (exponent : Int) : List Char :=
  if exponent < 0 then
    ['0', '.'] ++ List.replicate (exponent.natAbs - 1) '0' ++ digits
  else
    let whole := exponent.natAbs + 1
    let padded := digits ++ List.replicate (whole - digits.length) '0'
    let fraction := digits.drop whole
    padded.take whole ++ ['.'] ++ (if fraction.isEmpty then ['0'] else fraction)

def scientificChars (digits : List Char) (exponent : Int) : List Char :=
  let fraction := digits.drop 1
  digits.take 1 ++ (if fraction.isEmpty then [] else '.' :: fraction) ++ ['e'] ++
    (if exponent < 0 then ['-'] else ['+']) ++ (Nat.repr exponent.natAbs).toList

/-- The shortest decimal that reads back, with a mark that tells it from an integer. JSON has no text
for a number that is not finite. -/
def floatChars (x : Float) : List Char :=
  let bits := x.toBits.toNat
  if bits / 0x10_0000_0000_0000 % 0x800 = 2047 then "null".toList
  else
    let sign := if bits / 0x8000_0000_0000_0000 = 1 then ['-'] else []
    if bits % 0x8000_0000_0000_0000 = 0 then sign ++ "0.0".toList
    else
      let short := (Decimal.Binary.ofBits (bits % 0x8000_0000_0000_0000)).shortest
      let digits := (Nat.repr short.significand).toList
      let exponent := short.exponent + (digits.length - 1 : Nat)
      if positional.1 ≤ exponent ∧ exponent < positional.2 then
        sign ++ positionalChars digits exponent
      else sign ++ scientificChars digits exponent

/-! ## Strings -/

def escapedChar (c : Char) : List Char :=
  match c with
  | '"' => ['\\', '"']
  | '\\' => ['\\', '\\']
  | '\x08' => ['\\', 'b']
  | '\x0c' => ['\\', 'f']
  | '\n' => ['\\', 'n']
  | '\r' => ['\\', 'r']
  | '\t' => ['\\', 't']
  | c =>
    if c.toNat < 0x20 then
      ['\\', 'u', '0', '0', Text.hexDigit (c.toNat / 16), Text.hexDigit (c.toNat % 16)]
    else [c]

def stringChars (s : String) : List Char := '"' :: s.toList.flatMap escapedChar ++ ['"']

/-! ## Compact text -/

mutual

def chars : Json → List Char
  | null => "null".toList
  | bool true => "true".toList
  | bool false => "false".toList
  | int i => (Int.repr i).toList
  | float x => floatChars x
  | string s => stringChars s
  | array items => '[' :: itemsChars items ++ [']']
  | object fields => '{' :: fieldsChars fields ++ ['}']

def itemsChars : List Json → List Char
  | [] => []
  | [item] => item.chars
  | item :: next :: rest => item.chars ++ ',' :: itemsChars (next :: rest)

def fieldsChars : List (String × Json) → List Char
  | [] => []
  | [(key, value)] => stringChars key ++ ':' :: value.chars
  | (key, value) :: next :: rest =>
    stringChars key ++ ':' :: value.chars ++ ',' :: fieldsChars (next :: rest)

end

def text (value : Json) : String := String.ofList value.chars

/-! ## Indented text -/

def newline (depth : Nat) : List Char := '\n' :: List.replicate (2 * depth) ' '

mutual

def prettyChars (depth : Nat) : Json → List Char
  | array [] => ['[', ']']
  | object [] => ['{', '}']
  | array items => '[' :: prettyItems (depth + 1) items ++ newline depth ++ [']']
  | object fields => '{' :: prettyFields (depth + 1) fields ++ newline depth ++ ['}']
  | value => value.chars

def prettyItems (depth : Nat) : List Json → List Char
  | [] => []
  | [item] => newline depth ++ prettyChars depth item
  | item :: next :: rest =>
    newline depth ++ prettyChars depth item ++ ',' :: prettyItems depth (next :: rest)

def prettyFields (depth : Nat) : List (String × Json) → List Char
  | [] => []
  | [(key, value)] => newline depth ++ stringChars key ++ [':', ' '] ++ prettyChars depth value
  | (key, value) :: next :: rest =>
    newline depth ++ stringChars key ++ [':', ' '] ++ prettyChars depth value ++
      ',' :: prettyFields depth (next :: rest)

end

/-- Two spaces to a level; an empty array or object stays on its line. -/
def prettyText (value : Json) : String := String.ofList (prettyChars 0 value)

/-! ## Canonical text -/

/-- Orders rendered fields by their keys. -/
def byKey (fields : List (String × List Char)) : List (String × List Char) :=
  fields.mergeSort fun a b => decide (a.1 ≤ b.1)

mutual

def canonicalChars : Json → List Char
  | array items => '[' :: ([','].intercalate (canonicalItems items)) ++ [']']
  | object fields =>
    '{' :: ([','].intercalate ((byKey (canonicalFields fields)).map fun (key, value) =>
      stringChars key ++ ':' :: value)) ++ ['}']
  | value => value.chars

def canonicalItems : List Json → List (List Char)
  | [] => []
  | item :: rest => canonicalChars item :: canonicalItems rest

def canonicalFields : List (String × Json) → List (String × List Char)
  | [] => []
  | (key, value) :: rest => (key, canonicalChars value) :: canonicalFields rest

end

/-- No spaces, keys in increasing order at every level. -/
def canonicalText (value : Json) : String := String.ofList (canonicalChars value)

/-- A vector's coordinates as JSON numbers, each of its exact value. -/
def ofVector (vector : List Single) : Json := array (vector.map fun x => float x.widen)

end NeighborBench.Json
