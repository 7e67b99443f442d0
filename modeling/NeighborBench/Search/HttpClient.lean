import NeighborBench.Json.Printer
import NeighborBench.Search.Reply
import NeighborBench.Search.Url

/-! # Searching over HTTP -/

namespace NeighborBench

/-- A search as it is sent: always a post of JSON. -/
structure HttpRequest where
  url : Url
  body : String

/-- Why no answer came. -/
inductive TransportFault where
  | timeout
  | connect
  | other
  deriving DecidableEq, Repr

/-- Sends a request and waits for the answer, so many seconds at most. -/
abbrev Transport (m : Type → Type) := Nat → HttpRequest → m (Except TransportFault HttpReply)

namespace HttpRequest

def contentType : String := "application/json"

def excludedKey : String := "_source_excludes"

end HttpRequest

namespace Connection

def baseUrl (c : Connection) : String := s!"http://{c.endpoint}:{c.port}"

/-- Where an index is searched. -/
def searchUrl (c : Connection) (index : String) : String := s!"{c.baseUrl}/{index}/_search"

/-- The request for a search, unless it has no URL. -/
def httpRequest? (c : Connection) (r : SearchRequest) : Option HttpRequest :=
  (Url.ofText? (c.searchUrl r.index)).map fun url =>
    let url := if r.excluded.isEmpty then url
      else url.withPair HttpRequest.excludedKey (",".intercalate r.excluded)
    ⟨url, r.body.text⟩

end Connection

namespace TransportFault

def clientError (url : Url) : TransportFault → ClientError
  | timeout => .timeout s!"error sending request for url ({url.text})"
  | connect => .connect s!"error sending request for url ({url.text})"
  | other => .http s!"error sending request for url ({url.text})"

end TransportFault

variable {m : Type → Type} [Monad m]

/-- Searches through a transport. A connection without a URL is an error of each search. -/
def Connection.search (transport : Transport m) (c : Connection) (r : SearchRequest) :
    m (Except ClientError SearchReply) :=
  match c.httpRequest? r with
  | none => pure (.error (.http "builder error"))
  | some request => do
    match ← transport c.timeout request with
    | .error fault => pure (.error (fault.clientError request.url))
    | .ok reply => pure (SearchReply.ofHttp reply)

def Connection.client (transport : Transport m) (c : Connection) : Client m := fun r => do
  let found ← c.search transport r
  pure (found.mapError .client)

end NeighborBench
