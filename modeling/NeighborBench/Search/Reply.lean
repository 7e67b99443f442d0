import NeighborBench.Json.Tree
import NeighborBench.Search.Basic

/-! # Answers of the search service

An answer holds its time and its hits, each with an id; all else in it is passed over.
-/

namespace NeighborBench

/-- What becomes of a body while it is read. -/
inductive BodyFault where
  | timeout
  | cutShort
  deriving DecidableEq, Repr

structure HttpReply where
  status : Nat
  body : Except BodyFault (List UInt8)

namespace SearchReply

def idOf? (tree : Json.Tree) : Option String := do
  match ← tree.record? ["_id"] with
  | [some id] => id.asText?
  | _ => none

def hitsOf? (tree : Json.Tree) : Option (List String) := do
  match ← tree.record? ["hits"] with
  | [some (.array items)] => items.mapM idOf?
  | [none] => some []
  | _ => none

def ofTree? (tree : Json.Tree) : Option SearchReply := do
  match ← tree.record? ["took", "hits"] with
  | [some took, some hits] =>
    let took ← took.asFloat?
    let hits ← hitsOf? hits
    some ⟨took, hits⟩
  | _ => none

def ofBytes? (bytes : List UInt8) : Option SearchReply := (Json.Tree.ofBytes? bytes).bind ofTree?

def isSuccess (status : Nat) : Bool := 200 ≤ status && status < 300

/-- Any status but success is an error with the body's text, whatever the body holds. -/
def ofHttp (reply : HttpReply) : Except ClientError SearchReply :=
  match isSuccess reply.status, reply.body with
  | false, body => .error (.status reply.status (Text.utf8Lossy (body.toOption.getD [])))
  | true, .error .timeout => .error (.timeout "error decoding response body")
  | true, .error .cutShort => .error (.decode "error decoding response body")
  | true, .ok bytes =>
    match ofBytes? bytes with
    | some reply => .ok reply
    | none => .error (.decode "error decoding response body")

end SearchReply

end NeighborBench
