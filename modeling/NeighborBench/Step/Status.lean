/-! # How far a step has come -/

namespace NeighborBench

inductive Status where
  | initialized
  | running
  | completed
  | failed
  deriving DecidableEq, Repr

namespace Status

def name : Status → String
  | initialized => "Initialized"
  | running => "Running"
  | completed => "Completed"
  | failed => "Failed"

def canBecome : Status → Status → Bool
  | initialized, running => true
  | running, completed => true
  | running, failed => true
  | _, _ => false

def isTerminal : Status → Bool
  | completed => true
  | failed => true
  | _ => false

end Status

end NeighborBench
