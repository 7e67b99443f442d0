import NeighborBench.Search.HttpClient
import NeighborBench.Text.Blank

/-! # HTTP messages

The connection is closed after one answer, so an answer is all the bytes that came. The length of its
body is given, or written in front of each chunk, or else is all that came.
-/

namespace NeighborBench

/-! ## Requests -/

namespace HttpRequest

def crlf : String := "\r\n"

def text (r : HttpRequest) : String :=
  let headers := [
    s!"POST {r.url.target} HTTP/1.1",
    s!"host: {r.url.authority}",
    s!"content-type: {contentType}",
    "accept: */*",
    s!"content-length: {r.body.utf8ByteSize}",
    "connection: close"]
  crlf.intercalate headers ++ crlf ++ crlf ++ r.body

end HttpRequest

/-! ## Answers -/

namespace HttpReply

/-- The bytes up to the first end of a line, and those after it. -/
def takeLine? : List UInt8 → Option (List UInt8 × List UInt8)
  | 13 :: 10 :: rest => some ([], rest)
  | b :: rest => (takeLine? rest).map fun (line, rest) => (b :: line, rest)
  | [] => none

theorem takeLine?_length {bytes line rest : List UInt8} (h : takeLine? bytes = some (line, rest)) :
    rest.length < bytes.length := by
  fun_induction takeLine? bytes generalizing line with
  | case1 => grind
  | case2 b more _ ih =>
    obtain ⟨⟨line, rest'⟩, hmore, heq⟩ := Option.map_eq_some_iff.1 h
    cases heq
    have := ih hmore
    simp only [List.length_cons]
    omega
  | case3 => simp at h

/-- The lines before the first empty one, and the bytes after that. -/
def head? (bytes : List UInt8) : Option (List String × List UInt8) :=
  match h : takeLine? bytes with
  | none => none
  | some ([], rest) => some ([], rest)
  | some (line, rest) =>
    have := takeLine?_length h
    (head? rest).map fun (lines, rest) => (Text.utf8Lossy line :: lines, rest)
termination_by bytes.length

def status? (line : String) : Option Nat :=
  match line.splitOn " " with
  | version :: code :: _ => if version.startsWith "HTTP/1." then code.toNat? else none
  | _ => none

def header? (line : String) : Option (String × String) :=
  match line.splitOn ":" with
  | name :: first :: more => some (name.toLower, Text.trim (":".intercalate (first :: more)))
  | _ => none

/-- The length in front of a chunk, after which more may stand on its line. -/
def chunkLength? (line : List UInt8) : Option Nat :=
  let digits := (Text.utf8Lossy line).toList.takeWhile fun c => (Text.digitValue? 16 c).isSome
  if digits.isEmpty then none else Text.digitsValue? 16 digits

/-- The bodies of chunks up to the empty one. -/
def chunks? (bytes : List UInt8) : Option (List UInt8) :=
  match h : takeLine? bytes with
  | none => none
  | some (line, rest) =>
    have := takeLine?_length h
    match chunkLength? line with
    | none => none
    | some 0 => some []
    | some n =>
      if rest.length < n + 2 then none
      else (chunks? (rest.drop (n + 2))).map (rest.take n ++ ·)
termination_by bytes.length
decreasing_by
  simp only [List.length_drop]
  omega

/-- The body in the bytes after the headers. -/
def framed (headers : List (String × String)) (rest : List UInt8) : Except BodyFault (List UInt8) :=
  if (Keyed.get? "transfer-encoding" headers).any fun coding => coding.toLower = "chunked" then
    (chunks? rest).elim (.error .cutShort) .ok
  else
    match (Keyed.get? "content-length" headers).bind String.toNat? with
    | none => .ok rest
    | some length => if rest.length < length then .error .cutShort else .ok (rest.take length)

def isInterim (status : Nat) : Bool := status < 200

/-- The answer at the end of the bytes; answers that only promise one may stand before it. -/
def ofBytes? : Nat → List UInt8 → Option HttpReply
  | 0, _ => none
  | fuel + 1, bytes => do
    match ← head? bytes with
    | (first :: lines, rest) =>
      let status ← status? first
      if isInterim status then ofBytes? fuel rest
      else some ⟨status, framed (lines.filterMap header?) rest⟩
    | ([], _) => none

def ofBytes (bytes : List UInt8) : Except TransportFault HttpReply :=
  (ofBytes? (bytes.length + 1) bytes).elim (.error .other) .ok

end HttpReply

end NeighborBench
