import NeighborBench.Json.Numeral
import NeighborBench.Text.Integer
import NeighborBench.Text.Utf8

/-! # Reading JSON text

A text is read as a tree first. The tree keeps repeated keys, numbers as they are written, and
strings that spell no text, so that a reader which passes over a part does not judge it.
-/

namespace NeighborBench.Json

inductive Tree where
  | null
  | bool (value : Bool)
  | number (numeral : Numeral)
  | string (text : Option String)
  | array (items : List Tree)
  | object (fields : List (Option String × Tree))

abbrev Glyphs := List (Option Char)

/-! ## Tokens -/

def skipBlanks : Glyphs → Glyphs
  | some ' ' :: rest => skipBlanks rest
  | some '\n' :: rest => skipBlanks rest
  | some '\t' :: rest => skipBlanks rest
  | some '\r' :: rest => skipBlanks rest
  | glyphs => glyphs

/-- One piece of a string: a character, a hole, or the number of a `\u` escape. -/
inductive Piece where
  | char (c : Char)
  | hole
  | unit (n : Nat)

/-- The number that four digits write. -/
def hexUnit? (a b c d : Option Char) : Option Nat := do
  Text.digitsValue? 16 [← a, ← b, ← c, ← d]

def escape? : Char → Option Char
  | '"' => some '"'
  | '\\' => some '\\'
  | '/' => some '/'
  | 'b' => some '\x08'
  | 'f' => some '\x0c'
  | 'n' => some '\n'
  | 'r' => some '\r'
  | 't' => some '\t'
  | _ => none

/-- The pieces up to the closing quote, and what follows it. -/
def pieces : Glyphs → Option (List Piece × Glyphs)
  | some '"' :: rest => some ([], rest)
  | some '\\' :: some 'u' :: a :: b :: c :: d :: rest => do
    let n ← hexUnit? a b c d
    let (more, rest) ← pieces rest
    some (.unit n :: more, rest)
  | some '\\' :: some c :: rest => do
    let c ← escape? c
    let (more, rest) ← pieces rest
    some (.char c :: more, rest)
  | some c :: rest => do
    if c = '\\' || c.toNat < 0x20 then none
    else
      let (more, rest) ← pieces rest
      some (.char c :: more, rest)
  | none :: rest => do
    let (more, rest) ← pieces rest
    some (.hole :: more, rest)
  | [] => none

/-- The characters that the pieces spell. Escapes above the first plane come in pairs. -/
def spelled : List Piece → Option (List Char)
  | [] => some []
  | .char c :: rest => (spelled rest).map (c :: ·)
  | .hole :: _ => none
  | .unit high :: .unit low :: rest =>
    if 0xD800 ≤ high ∧ high < 0xDC00 then
      if 0xDC00 ≤ low ∧ low < 0xE000 then
        (spelled rest).map (Char.ofNat (0x10000 + (high - 0xD800) * 0x400 + (low - 0xDC00)) :: ·)
      else none
    else if 0xDC00 ≤ high ∧ high < 0xE000 then none
    else (spelled (.unit low :: rest)).map (Char.ofNat high :: ·)
  | .unit n :: rest =>
    if 0xD800 ≤ n ∧ n < 0xE000 then none else (spelled rest).map (Char.ofNat n :: ·)

def string? (glyphs : Glyphs) : Option (Option String × Glyphs) :=
  (pieces glyphs).map fun (ps, rest) => ((spelled ps).map String.ofList, rest)

def digits : Glyphs → List Nat × Glyphs
  | some c :: rest =>
    if '0' ≤ c ∧ c ≤ '9' then
      let (ds, rest) := digits rest
      ((c.toNat - '0'.toNat) :: ds, rest)
    else ([], some c :: rest)
  | glyphs => ([], glyphs)

/-- One digit or more. -/
def digits? (glyphs : Glyphs) : Option (List Nat × Glyphs) :=
  match digits glyphs with
  | ([], _) => none
  | (ds, rest) => some (ds, rest)

def exponent? : Glyphs → Option (Option (Bool × List Nat) × Glyphs)
  | some c :: rest =>
    if c = 'e' || c = 'E' then
      match rest with
      | some '+' :: rest => (digits? rest).map fun (ds, rest) => (some (false, ds), rest)
      | some '-' :: rest => (digits? rest).map fun (ds, rest) => (some (true, ds), rest)
      | rest => (digits? rest).map fun (ds, rest) => (some (false, ds), rest)
    else some (none, some c :: rest)
  | glyphs => some (none, glyphs)

def fraction? : Glyphs → Option (List Nat × Glyphs)
  | some '.' :: rest => digits? rest
  | glyphs => some ([], glyphs)

/-- A zero in front stands alone. -/
def whole? (glyphs : Glyphs) : Option (List Nat × Glyphs) :=
  match digits? glyphs with
  | some (0 :: _ :: _, _) => none
  | found => found

def numeral? (glyphs : Glyphs) : Option (Numeral × Glyphs) := do
  let (negative, rest) := match glyphs with
    | some '-' :: rest => (true, rest)
    | rest => (false, rest)
  let (whole, rest) ← whole? rest
  let (fraction, rest) ← fraction? rest
  let (exponent, rest) ← exponent? rest
  some (⟨negative, whole, fraction, exponent⟩, rest)

/-! ## The tree -/

mutual

/-- The fuel bounds the number of values; each takes at least one character. -/
def value? : Nat → Glyphs → Option (Tree × Glyphs)
  | 0, _ => none
  | fuel + 1, glyphs =>
    match skipBlanks glyphs with
    | some 'n' :: some 'u' :: some 'l' :: some 'l' :: rest => some (.null, rest)
    | some 't' :: some 'r' :: some 'u' :: some 'e' :: rest => some (.bool true, rest)
    | some 'f' :: some 'a' :: some 'l' :: some 's' :: some 'e' :: rest => some (.bool false, rest)
    | some '"' :: rest => (string? rest).map fun (s, rest) => (.string s, rest)
    | some '[' :: rest =>
      match skipBlanks rest with
      | some ']' :: rest => some (.array [], rest)
      | rest => (items? fuel rest).map fun (items, rest) => (.array items, rest)
    | some '{' :: rest =>
      match skipBlanks rest with
      | some '}' :: rest => some (.object [], rest)
      | rest => (fields? fuel rest).map fun (fields, rest) => (.object fields, rest)
    | rest => (numeral? rest).map fun (n, rest) => (.number n, rest)

def items? : Nat → Glyphs → Option (List Tree × Glyphs)
  | 0, _ => none
  | fuel + 1, glyphs => do
    let (item, rest) ← value? fuel glyphs
    match skipBlanks rest with
    | some ']' :: rest => some ([item], rest)
    | some ',' :: rest =>
      let (items, rest) ← items? fuel rest
      some (item :: items, rest)
    | _ => none

def fields? : Nat → Glyphs → Option (List (Option String × Tree) × Glyphs)
  | 0, _ => none
  | fuel + 1, glyphs =>
    match skipBlanks glyphs with
    | some '"' :: rest => do
      let (key, rest) ← string? rest
      match skipBlanks rest with
      | some ':' :: rest => do
        let (value, rest) ← value? fuel rest
        match skipBlanks rest with
        | some '}' :: rest => some ([(key, value)], rest)
        | some ',' :: rest =>
          let (fields, rest) ← fields? fuel rest
          some ((key, value) :: fields, rest)
        | _ => none
      | _ => none
    | _ => none

end

namespace Tree

/-- The tree of a text that holds one value and blanks around it. -/
def ofGlyphs? (glyphs : Glyphs) : Option Tree :=
  match value? (2 * glyphs.length + 2) glyphs with
  | some (tree, rest) => if (skipBlanks rest).isEmpty then some tree else none
  | none => none

def ofText? (s : String) : Option Tree := ofGlyphs? (Text.whole s)

def ofBytes? (bytes : List UInt8) : Option Tree := ofGlyphs? (Text.decode bytes)

/-! ## What a tree stands for -/

mutual

/-- The value of a tree that nests at most `depth` arrays and objects. The last of repeated keys
counts. -/
def toJson? : Nat → Tree → Option Json
  | _, .null => some .null
  | _, .bool b => some (.bool b)
  | _, .number n => n.value?
  | _, .string s => s.map .string
  | 0, .array _ => none
  | 0, .object _ => none
  | depth + 1, .array items => (itemsToJson? depth items).map .array
  | depth + 1, .object fields => (fieldsToJson? depth fields).map fun fs => .object (Keyed.ofList fs)

def itemsToJson? (depth : Nat) : List Tree → Option (List Json)
  | [] => some []
  | item :: rest => do
    let item ← toJson? depth item
    let rest ← itemsToJson? depth rest
    some (item :: rest)

def fieldsToJson? (depth : Nat) : List (Option String × Tree) → Option (List (String × Json))
  | [] => some []
  | (key, value) :: rest => do
    let key ← key
    let value ← toJson? depth value
    let rest ← fieldsToJson? depth rest
    some ((key, value) :: rest)

end

/-- The trees of named fields, in the order of the names; a field that is absent has none. A key that
is no name is passed over, and a name may come once. A record may also be written as an array of its
fields in order. -/
def record? (names : List String) : Tree → Option (List (Option Tree))
  | .array items =>
    if items.length ≤ names.length then
      some (items.map some ++ List.replicate (names.length - items.length) none)
    else none
  | .object fields => do
    let keyed ← fields.mapM fun (key, tree) => key.map fun k => (k, tree)
    let known := keyed.filter fun (key, _) => names.contains key
    if (known.map (·.1)).eraseDups.length = known.length then
      some (names.map fun name => Keyed.get? name known)
    else none
  | _ => none

def asText? : Tree → Option String
  | .string s => s
  | _ => none

def asFloat? : Tree → Option Float
  | .number n => n.asFloat?
  | _ => none

end Tree

/-- Arrays and objects may stand 127 deep. -/
def depthLimit : Nat := 127

/-- The value of a JSON text. -/
def parse? (s : String) : Option Json := (Tree.ofText? s).bind (·.toJson? depthLimit)

end NeighborBench.Json
