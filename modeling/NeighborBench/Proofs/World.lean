import NeighborBench.Query.Step

/-! # What is done outside

A world keeps the outside in a state of any kind and notes what is done there, each act with its
answer, in the order in which they are done.
-/

namespace NeighborBench

inductive Event where
  | opened (ref : DatasetRef) (answer : Except DatasetError Unit)
  | connected (connection : Connection) (answer : Except String Unit)
  | searched (request : SearchRequest) (answer : Except SearchFault SearchReply)

structure World (ω : Type) where
  outside : ω
  events : List Event

/-- What a search was answered. -/
def Event.answer? : Event → Option (Except SearchFault SearchReply)
  | .searched _ answer => some answer
  | _ => none

/-- The answers to all searches that were sent, each to one of them. -/
def World.answers {ω : Type} (w : World ω) : List (Except SearchFault SearchReply) :=
  w.events.filterMap Event.answer?

theorem World.mem_answers {ω : Type} (w : World ω) (request : SearchRequest)
    (answer : Except SearchFault SearchReply) (h : .searched request answer ∈ w.events) :
    answer ∈ w.answers :=
  List.mem_filterMap.mpr ⟨.searched request answer, h, rfl⟩

/-! ## Noting -/

section

variable {ω α δ : Type}

/-- Does something outside and notes it. -/
def noting (event : α → Event) (act : StateM ω α) : StateM (World ω) α := fun w =>
  let (answer, outside) := act w.outside
  (answer, ⟨outside, w.events ++ [event answer]⟩)

def unnoted (act : StateM ω α) : StateM (World ω) α := fun w =>
  let (answer, outside) := act w.outside
  (answer, ⟨outside, w.events⟩)

def Client.noted (client : Client (StateM ω)) : Client (StateM (World ω)) := fun request =>
  noting (.searched request) (client request)

/-- The same services, with each dataset opened, each connection and each search noted. The clock
may be read at any time. -/
def Services.noted (services : Services (StateM ω) δ) : Services (StateM (World ω)) δ where
  openDataset ref :=
    noting (fun opened => .opened ref (opened.map fun _ => ())) (services.openDataset ref)
  connect connection := do
    let connected ← noting (fun connected => .connected connection (connected.map fun _ => ()))
      (services.connect connection)
    pure (connected.map Client.noted)
  clock := unnoted services.clock

end

end NeighborBench
