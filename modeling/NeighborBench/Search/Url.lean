import NeighborBench.Search.Host

/-! # URLs of searches

A URL is read leniently: backslashes count as slashes, dots name the same or the next higher place,
and characters that may not stand in a URL are written as bytes.
-/

namespace NeighborBench

structure Url where
  host : Host
  port : Nat
  /-- What stands between the slashes of the path. -/
  path : List String
  query : Option String
  deriving DecidableEq, Repr

namespace Url

def defaultPort : Nat := 80

/-! ## Characters -/

def isSlash (c : Char) : Bool := c = '/' || c = '\\'

/-- A character at which the host and port end. -/
def endsAuthority (c : Char) : Bool := isSlash c || c = '?' || c = '#'

/-- A printed character of one byte that is none of these. -/
def isKeptBut (marks : String) (c : Char) : Bool :=
  0x20 < c.toNat && c.toNat < 0x7F && !marks.toList.contains c

def pathText (segment : List Char) : String :=
  String.ofList (Text.encodeUnless (isKeptBut "\"#<>?\x60\x7b\x7d") segment)

def queryText (query : List Char) : String :=
  String.ofList (Text.encodeUnless (isKeptBut "\"#<>'") query)

/-! ## Paths -/

def isDot (segment : List Char) : Bool :=
  [".", "%2e"].contains (String.ofList segment).toLower

def isDoubleDot (segment : List Char) : Bool :=
  ["..", ".%2e", "%2e.", "%2e%2e"].contains (String.ofList segment).toLower

/-- The segments that are left when dots are resolved. `above` holds those before, the last first. -/
def resolved (above : List String) : List (List Char) → List String
  | [] => above.reverse
  | segment :: rest =>
    if isDoubleDot segment then
      if rest.isEmpty then ("" :: above.drop 1).reverse else resolved (above.drop 1) rest
    else if isDot segment then
      if rest.isEmpty then ("" :: above).reverse else resolved above rest
    else resolved (pathText segment :: above) rest

def splitSlashes : List Char → List (List Char)
  | [] => [[]]
  | c :: rest =>
    if isSlash c then [] :: splitSlashes rest
    else
      match splitSlashes rest with
      | [] => [[c]]
      | first :: more => (c :: first) :: more

/-- The segments of a path, which may lack its first slash. -/
def segments (path : List Char) : List String :=
  match path with
  | [] => [""]
  | c :: rest => resolved [] (splitSlashes (if isSlash c then rest else c :: rest))

/-! ## Host and port -/

/-- The part before the first colon outside brackets, and what follows the colon. -/
def splitPort (inBrackets : Bool) : List Char → List Char × Option (List Char)
  | [] => ([], none)
  | c :: rest =>
    if c = ':' && !inBrackets then ([], some rest)
    else
      let bracket := if c = '[' then true else if c = ']' then false else inBrackets
      let (host, port) := splitPort bracket rest
      (c :: host, port)

def portLimit : Nat := 65535

def port? : Option (List Char) → Option Nat
  | none => some defaultPort
  | some [] => some defaultPort
  | some digits =>
    if digits.all Char.isDigit then (Text.digitsValue? 10 digits).filter (· ≤ portLimit) else none

/-- What follows the last at sign; a name and a password may stand before it. -/
def withoutUser (authority : List Char) : List Char :=
  (authority.reverse.takeWhile (· ≠ '@')).reverse

/-! ## Reading -/

def isStripped (c : Char) : Bool := c.toNat ≤ 0x20

/-- Blanks around a URL and breaks inside it do not count. -/
def cleaned (text : List Char) : List Char :=
  (((text.dropWhile isStripped).reverse.dropWhile isStripped).reverse).filter fun c =>
    !(c = '\t' || c = '\n' || c = '\r')

/-- What may follow the scheme and its slashes. The fragment is no part of it. -/
def ofRest? (text : List Char) : Option Url := do
  let text := text.takeWhile (· ≠ '#')
  let (hostText, portText) := splitPort false (withoutUser (text.takeWhile (!endsAuthority ·)))
  let host ← Host.ofText? hostText
  let port ← port? portText
  let rest := text.dropWhile (!endsAuthority ·)
  let query := match rest.dropWhile (· ≠ '?') with
    | [] => none
    | _ :: query => some (queryText query)
  some ⟨host, port, segments (rest.takeWhile (· ≠ '?')), query⟩

def scheme : String := "http:"

def ofText? (text : String) : Option Url :=
  let text := cleaned text.toList
  if (String.ofList (text.take scheme.length)).toLower = scheme then
    ofRest? ((text.drop scheme.length).dropWhile isSlash)
  else none

/-! ## Queries -/

/-- A form writes blanks as plus signs. -/
def formText (text : String) : String :=
  String.ofList (text.toUTF8.toList.flatMap fun b =>
    let c := Char.ofNat b.toNat
    if b < 0x80 && (c.isAlphanum || "*-._".toList.contains c) then [c]
    else if c = ' ' then ['+']
    else Text.percentEncoded b)

def withPair (url : Url) (name value : String) : Url :=
  let pair := formText name ++ "=" ++ formText value
  let query := match url.query with
    | none => pair
    | some "" => pair
    | some query => query ++ "&" ++ pair
  { url with query := some query }

/-! ## Writing -/

def authority (url : Url) : String :=
  if url.port = defaultPort then url.host.text else s!"{url.host.text}:{url.port}"

/-- Path and query. -/
def target (url : Url) : String :=
  "/" ++ "/".intercalate url.path ++ url.query.elim "" ("?" ++ ·)

def text (url : Url) : String := "http://" ++ url.authority ++ url.target

end Url

end NeighborBench
