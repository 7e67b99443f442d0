import NeighborBench.Keyed

/-! # JSON values

Integers and floating numbers are apart: `1` and `1.0` are two values. The fields of an object that
was read are in increasing order of their keys, each key once.
-/

namespace NeighborBench

inductive Json where
  | null
  | bool (value : Bool)
  | int (value : Int)
  | float (value : Float)
  | string (value : String)
  | array (items : List Json)
  | object (fields : List (String × Json))

abbrev Fields := List (String × Json)

namespace Json

def isNull : Json → Bool
  | null => true
  | _ => false

def asString? : Json → Option String
  | string s => some s
  | _ => none

def asBool? : Json → Option Bool
  | bool b => some b
  | _ => none

/-- Integers of 64 bits with a sign; no other number counts as one. -/
def asInt? : Json → Option Int
  | int i => if -0x8000_0000_0000_0000 ≤ i ∧ i < 0x8000_0000_0000_0000 then some i else none
  | _ => none

/-- One level deep: fields of the upper object replace those of the lower. Any other upper value
stands for itself. -/
def merge : Json → Json → Json
  | object lower, object upper => object (Keyed.merge lower upper)
  | _, upper => upper

end Json

end NeighborBench
