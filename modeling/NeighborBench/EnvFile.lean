import NeighborBench.Keyed
import NeighborBench.Text.Blank
import NeighborBench.Text.Utf8

/-! # Files of environment variables

One variable on a line, unless quotes go on over lines. A variable that is already set keeps its value.
Reading stops at the first line that is wrong.
-/

namespace NeighborBench.EnvFile

abbrev Variables := List (String × String)

/-! ## Lines -/

/-- What is open after some characters of a line. -/
inductive Open where
  | nothing
  | blank
  | escape
  | strong
  | strongEscape
  | weak
  | weakEscape
  deriving DecidableEq, Repr

def Open.outside (c : Char) : Open :=
  if c = '\\' then escape else if c = '"' then weak else if c = '\'' then strong else nothing

def Open.next (o : Open) (c : Char) : Open :=
  match o with
  | nothing =>
    if Text.isBlank c && c ≠ '\n' && c ≠ '\r' then blank else outside c
  | blank => outside c
  | escape => nothing
  | strong => if c = '\\' then strongEscape else if c = '\'' then nothing else strong
  | strongEscape => strong
  | weak => if c = '\\' then weakEscape else if c = '"' then nothing else weak
  | weakEscape => weak

/-- A line as it is read: complete, begun and still open, or with a comment that was cut off. -/
inductive LineEnd where
  | ended (o : Open)
  | commented

/-- A number sign after a blank begins a comment. -/
def scan (o : Open) : List Char → List Char × LineEnd
  | [] => ([], .ended o)
  | c :: rest =>
    if o = .blank && c = '#' then ([], .commented)
    else
      let (kept, lineEnd) := scan (o.next c) rest
      (c :: kept, lineEnd)

/-- The characters to the end of a line and with it, and the rest. -/
def takeLine : List (Option Char) → List (Option Char) × List (Option Char)
  | [] => ([], [])
  | c :: rest =>
    if c = some '\n' then ([c], rest)
    else
      let (line, rest) := takeLine rest
      (c :: line, rest)

def withoutBreak (line : List Char) : List Char :=
  match line.reverse with
  | '\n' :: '\r' :: front => front.reverse
  | '\n' :: front => front.reverse
  | _ => line

/-- What reading a line gives. -/
inductive Found where
  | line (text : List Char) (rest : List (Option Char))
  | bad
  | nothing

/-- Reads lines until one is complete; `front` holds those before. The fuel bounds their number. -/
def readLine (front : List Char) (o : Open) : Nat → List (Option Char) → Found
  | 0, _ => .nothing
  | _ + 1, [] => if o = .nothing then .nothing else .bad
  | fuel + 1, c :: rest =>
    let (raw, rest) := takeLine (c :: rest)
    match raw.mapM id with
    | none => .bad
    | some chars =>
      if (Text.trimStart (front ++ chars)).head? = some '#' then .line [] rest
      else
        match scan o chars with
        | (kept, .commented) => .line (front ++ kept) rest
        | (_, .ended .nothing) => .line (withoutBreak (front ++ chars)) rest
        | (_, .ended o) => readLine (front ++ chars) o fuel rest

/-! ## Values -/

inductive Quote where
  | none
  | strong
  | weak
  deriving DecidableEq, Repr

/-- Where a value is being read. `name` is the name of a variable to put in, in braces or not. -/
structure ValueState where
  quote : Quote := .none
  escaped : Bool := false
  /-- Only a comment may follow. -/
  ended : Bool := false
  name : Option (Bool × List Char) := none

def isNameChar (c : Char) : Bool := c.isAlphanum || 0x80 ≤ c.toNat

def valueOf (vars : Variables) (name : List Char) : List Char :=
  ((Keyed.get? (String.ofList name) vars).getD "").toList

def unescape? (c : Char) : Option Char :=
  if c = 'n' then some '\n' else if "\\'\"$ ".toList.contains c then some c else none

/-- The value that characters spell. -/
def value? (vars : Variables) (s : ValueState) : List Char → Option (List Char)
  | [] =>
    match s.name, s.quote with
    | some (true, _), _ => none
    | some (false, name), .none => some (valueOf vars name)
    | none, .none => some []
    | _, _ => none
  | c :: rest =>
    if s.ended then
      if c = ' ' || c = '\t' then value? vars s rest
      else if c = '#' then some []
      else none
    else if s.escaped then
      match unescape? c with
      | some c => (value? vars { s with escaped := false } rest).map (c :: ·)
      | none => none
    else if s.quote = .strong then
      if c = '\'' then value? vars { s with quote := .none } rest
      else (value? vars s rest).map (c :: ·)
    else
      match s.name with
      | some (braced, name) =>
        if isNameChar c then value? vars { s with name := some (braced, name ++ [c]) } rest
        else if braced then
          if c = '}' then
            (value? vars { s with name := none } rest).map (valueOf vars name ++ ·)
          else value? vars { s with name := some (braced, name ++ [c]) } rest
        else if c = '{' && name.isEmpty then
          value? vars { s with name := some (true, []) } rest
        else if c = '$' then
          (value? vars { s with name := some (false, []) } rest).map
            (valueOf vars name ++ ·)
        else
          (value? vars { s with name := none } rest).map
            (valueOf vars name ++ c :: ·)
      | none =>
        if c = '$' then value? vars { s with name := some (false, []) } rest
        else if s.quote = .weak then
          if c = '"' then value? vars { s with quote := .none } rest
          else if c = '\\' then value? vars { s with escaped := true } rest
          else (value? vars s rest).map (c :: ·)
        else if c = '\'' then value? vars { s with quote := .strong } rest
        else if c = '"' then value? vars { s with quote := .weak } rest
        else if c = '\\' then value? vars { s with escaped := true } rest
        else if c = ' ' || c = '\t' then value? vars { s with ended := true } rest
        else (value? vars s rest).map (c :: ·)

/-! ## Variables -/

def isKeyStart (c : Char) : Bool := c.isAlpha || c = '_'

def isKeyChar (c : Char) : Bool := c.isAlphanum || c = '_' || c = '.'

/-- A key and the blanks after it. -/
def key? (text : List Char) : Option (String × List Char) :=
  if text.head?.any isKeyStart then
    some (String.ofList (text.takeWhile isKeyChar), Text.trimStart (text.dropWhile isKeyChar))
  else none

/-- The key in front of an equals sign, and what follows it. The word `export` may stand before. -/
def assignment? (text : List Char) : Option (String × List Char) := do
  let (key, rest) ← key? text
  match rest with
  | '=' :: rest => some (key, rest)
  | _ =>
    if key = "export" then
      match ← key? rest with
      | (key, '=' :: rest) => some (key, rest)
      | _ => none
    else none

/-- The variable on a line, if it is no blank line or comment; `none` is a line that is wrong. -/
def setting? (vars : Variables) (line : List Char) : Option (Option (String × String)) :=
  let text := Text.trimStart (Text.trimEnd line)
  if text.isEmpty || text.head? = some '#' then some none
  else do
    let (key, rest) ← assignment? text
    let rest := Text.trimStart rest
    if rest.isEmpty || rest.head? = some '#' then some (some (key, ""))
    else
      let value ← value? vars {} rest
      some (some (key, String.ofList value))

/-- Adds the variables of the lines to those that are set. The fuel bounds the number of lines. -/
def loadLines (vars : Variables) : Nat → List (Option Char) → Variables
  | 0, _ => vars
  | fuel + 1, text =>
    match readLine [] .nothing (text.length + 1) text with
    | .nothing => vars
    | .bad => vars
    | .line line rest =>
      match setting? vars line with
      | none => vars
      | some none => loadLines vars fuel rest
      | some (some (key, value)) =>
        if (Keyed.get? key vars).isSome then loadLines vars fuel rest
        else loadLines (vars ++ [(key, value)]) fuel rest

/-- The variables that are set once a file is read. A byte order mark in front does not count. -/
def load (vars : Variables) (bytes : List UInt8) : Variables :=
  let text := Text.decode bytes
  let text := if text.head? = some (some '\uFEFF') then text.drop 1 else text
  loadLines vars (text.length + 1) text

/-! ## Names -/

/-- Names after dollar signs, and in braces after them. -/
def substituted : List Char → List String
  | [] => []
  | '$' :: rest =>
    String.ofList (rest.takeWhile isNameChar) :: String.ofList ((rest.drop 1).takeWhile (· ≠ '}')) ::
      substituted rest
  | _ :: rest => substituted rest

/-- Every name of which a file may say something or ask for the value. -/
def names (bytes : List UInt8) : List String :=
  let text := Text.utf8Lossy bytes
  substituted text.toList ++ (text.toList.splitBy fun a b => isKeyChar a && isKeyChar b).map String.ofList

end NeighborBench.EnvFile
