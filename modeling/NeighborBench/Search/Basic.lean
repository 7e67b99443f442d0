import NeighborBench.Json.Basic
import NeighborBench.Text.Quoted

/-! # Searches and their answers -/

namespace NeighborBench

/-- Where searches go, and the seconds that each may take. -/
structure Connection where
  endpoint : String
  port : Nat
  timeout : Nat
  deriving DecidableEq, Repr

structure SearchRequest where
  index : String
  body : Json
  /-- Fields that the answer leaves out of each document. -/
  excluded : List String

structure SearchReply where
  /-- Milliseconds that the service reports. -/
  took : Float
  /-- Ids in the order of the service. -/
  hits : List String

/-! ## Failures -/

inductive ClientError where
  | timeout (detail : String)
  | connect (detail : String)
  | status (code : Nat) (body : String)
  | decode (detail : String)
  | http (detail : String)
  deriving DecidableEq, Repr

namespace ClientError

def message : ClientError → String
  | timeout detail => s!"request timed out: {detail}"
  | connect detail => s!"cannot connect: {detail}"
  | status code body => s!"search service answered {code}: {body}"
  | decode detail => s!"cannot decode search response: {detail}"
  | http detail => s!"http error: {detail}"

def diagnostic : ClientError → String
  | timeout detail => s!"Timeout({Text.quoted detail})"
  | connect detail => s!"Connect({Text.quoted detail})"
  | status code body => s!"Status \x7b status: {code}, body: {Text.quoted body} \x7d"
  | decode detail => s!"Decode({Text.quoted detail})"
  | http detail => s!"Http({Text.quoted detail})"

end ClientError

/-- Why a search gave no usable answer. -/
inductive SearchFault where
  | client (error : ClientError)
  | badHit (id : String) (reason : String)
  | other (text : String)
  deriving DecidableEq, Repr

namespace SearchFault

def message : SearchFault → String
  | client error => error.message
  | badHit id reason => s!"non-numeric hit id `{id}`: {reason}"
  | other text => text

def diagnostic : SearchFault → String
  | client error => error.diagnostic
  | fault => Text.quoted fault.message

end SearchFault

/-- Sends one search and waits for its answer. -/
abbrev Client (m : Type → Type) := SearchRequest → m (Except SearchFault SearchReply)

end NeighborBench
