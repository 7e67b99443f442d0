import NeighborBench.Text.Percent

/-! # Hosts of URLs

A host is a name or an address. A name whose last part is a number has to be an address of four
bytes.
-/

namespace NeighborBench

inductive Host where
  | name (name : String)
  | ipv4 (address : Nat)
  | ipv6 (pieces : List Nat)
  deriving DecidableEq, Repr

namespace Host

/-! ## Names -/

def isForbidden (c : Char) : Bool :=
  c.toNat ≤ 0x20 || c.toNat = 0x7F || c = '\uFFFD' ||
    "#/:<>?@[\\]^|%".toList.contains c

/-! ## Addresses of four bytes -/

/-- A number in base ten, or after a zero in base eight, or after a zero and an x in base sixteen. -/
def number? : List Char → Option Nat
  | [] => none
  | '0' :: 'x' :: digits => Text.digitsValue? 16 digits
  | '0' :: 'X' :: digits => Text.digitsValue? 16 digits
  | '0' :: digits => Text.digitsValue? 8 digits
  | digits => Text.digitsValue? 10 digits

/-- The parts between dots; a dot at the end begins none. -/
def parts (name : String) : List (List Char) :=
  let parts := (name.splitOn ".").map String.toList
  if 1 < parts.length && parts.getLast? = some [] then parts.dropLast else parts

def endsInNumber (name : String) : Bool :=
  match (parts name).getLast? with
  | none => false
  | some last => (!last.isEmpty && last.all Char.isDigit) || (number? last).isSome

/-- The last part counts for all bytes that the others leave. -/
def address? (name : String) : Option Nat := do
  let numbers ← (parts name).mapM number?
  let last ← numbers.getLast?
  let front := numbers.dropLast
  if 3 < front.length || front.any (255 < ·) || 1 <<< (8 * (4 - front.length)) ≤ last then none
  else some (front.foldl (fun n b => n * 256 + b) 0 <<< (8 * (4 - front.length)) + last)

/-! ## Addresses of eight pieces -/

/-- A byte in base ten, without a zero in front. -/
def byte? (digits : List Char) : Option Nat := do
  if digits.isEmpty || (1 < digits.length && digits.head? = some '0') then none
  let n ← Text.digitsValue? 10 digits
  if n ≤ 255 then some n else none

/-- A piece, or two pieces written as four bytes at the end. -/
def pieces? (isLast : Bool) (group : String) : Option (List Nat) :=
  match (group.splitOn ".").map String.toList with
  | [digits] =>
    if digits.isEmpty || 4 < digits.length then none else (Text.digitsValue? 16 digits).map ([·])
  | [a, b, c, d] => do
    if !isLast then none
    let a ← byte? a
    let b ← byte? b
    let c ← byte? c
    let d ← byte? d
    some [a * 256 + b, c * 256 + d]
  | _ => none

def groups? (isLast : Bool) (text : String) : Option (List Nat) :=
  if text.isEmpty then some []
  else
    let groups := text.splitOn ":"
    let found := groups.mapIdx fun i group => pieces? (isLast && i + 1 = groups.length) group
    (found.mapM id).map List.flatten

/-- Two colons stand for as many zeros as are missing, and for one at least. -/
def sixteenBytes? (text : String) : Option (List Nat) :=
  match text.splitOn "::" with
  | [whole] => (groups? true whole).filter (·.length = 8)
  | [left, right] => do
    let left ← groups? false left
    let right ← groups? true right
    if 8 ≤ left.length + right.length then none
    else some (left ++ List.replicate (8 - left.length - right.length) 0 ++ right)
  | _ => none

/-! ## Reading -/

def ofName? (text : List Char) : Option Host :=
  let name := (Text.utf8Lossy (Text.percentDecoded text)).toLower
  if name.isEmpty || name.toList.any isForbidden then none
  else if endsInNumber name then (address? name).map ipv4
  else some (.name name)

def ofText? (text : List Char) : Option Host :=
  match text with
  | '[' :: rest =>
    if rest.getLast? = some ']' then (sixteenBytes? (String.ofList rest.dropLast)).map ipv6 else none
  | _ => ofName? text

/-! ## Writing -/

/-- The start and length of the longest row of zeros, the first of several. -/
def zeroRun (pieces : List Nat) : Nat × Nat :=
  let runs := (List.range pieces.length).map fun i => (i, ((pieces.drop i).takeWhile (· = 0)).length)
  runs.foldl (fun best run => if best.2 < run.2 then run else best) (0, 0)

def hexPieces (pieces : List Nat) : String :=
  ":".intercalate (pieces.map fun n => String.ofList (Text.hexDigits n))

/-- The host without brackets. -/
def bareText : Host → String
  | .name n => n
  | .ipv4 n =>
    ".".intercalate ([n >>> 24, n >>> 16 % 256, n >>> 8 % 256, n % 256].map Nat.repr)
  | .ipv6 pieces =>
    let (start, count) := zeroRun pieces
    if count < 2 then hexPieces pieces
    else hexPieces (pieces.take start) ++ "::" ++ hexPieces (pieces.drop (start + count))

def text (host : Host) : String :=
  match host with
  | ipv6 _ => "[" ++ host.bareText ++ "]"
  | _ => host.bareText

end Host

end NeighborBench
