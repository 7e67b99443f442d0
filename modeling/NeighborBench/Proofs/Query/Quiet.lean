import NeighborBench.Engine
import NeighborBench.Proofs.Query.Building
import NeighborBench.Proofs.World

/-! # Building sends no search -/

namespace NeighborBench

def Event.search? : Event → Option SearchRequest
  | .searched request _ => some request
  | _ => none

section

variable {ω α β ε : Type}

/-- The searches that were sent so far. -/
def World.searches (w : World ω) : List SearchRequest := w.events.filterMap Event.search?

def Quiet (act : StateM (World ω) α) : Prop := ∀ w, (act w).2.searches = w.searches

namespace Quiet

theorem pure (a : α) : Quiet (Pure.pure a : StateM (World ω) α) := fun _ => rfl

theorem bind {act : StateM (World ω) α} {next : α → StateM (World ω) β} (h : Quiet act)
    (hnext : ∀ a, Quiet (next a)) : Quiet (act >>= next) := by
  intro w
  rw [state_bind, hnext, h]

theorem run_bind {act : ExceptT ε (StateM (World ω)) α}
    {next : α → ExceptT ε (StateM (World ω)) β} (h : Quiet act.run)
    (hnext : ∀ a, Quiet (next a).run) : Quiet (act >>= next).run := by
  change Quiet (act.run >>= ExceptT.bindCont next)
  refine h.bind fun answer => ?_
  cases answer with
  | error e => exact .pure _
  | ok a => exact hnext a

theorem unnoted (act : StateM ω α) : Quiet (unnoted act) := fun _ => rfl

theorem noting {event : α → Event} (silent : ∀ a, (event a).search? = none) (act : StateM ω α) :
    Quiet (noting event act) := by
  intro w
  change (w.events ++ [event (act w.outside).1]).filterMap Event.search? = _
  rw [List.filterMap_append, List.filterMap_cons_none (silent _), List.filterMap_nil,
    List.append_nil]
  rfl

end Quiet

end

namespace QueryStep

variable {ω δ : Type} (services : Services (StateM ω) δ)

theorem openDataset_quiet (ref : DatasetRef) : Quiet (services.noted.openDataset ref) :=
  .noting (fun _ => rfl) _

theorem connect_quiet (connection : Connection) : Quiet (services.noted.connect connection) :=
  Quiet.bind (.noting (fun _ => rfl) _) fun _ => .pure _

theorem openAs_quiet (ref : DatasetRef) : Quiet (openAs services.noted ref).run :=
  Quiet.bind (openDataset_quiet services ref) fun _ => .pure _

theorem openNeighbors_quiet (step : String) (p : QueryParameters) :
    Quiet (openNeighbors services.noted step p).run := by
  unfold openNeighbors
  split
  · split
    · exact .pure _
    · rw [map_eq_pure_bind]
      exact (openAs_quiet services _).run_bind fun _ => .pure _
  · exact .pure _

theorem connectAs_quiet (step : String) (connection : Connection) :
    Quiet (connectAs services.noted step connection).run :=
  Quiet.bind (connect_quiet services connection) fun _ => .pure _

variable [Dataset δ]

theorem ofConfig_quiet (config : StepConfig) : Quiet (ofConfig services.noted config) := by
  unfold ofConfig build
  refine .run_bind (.pure _) fun p => ?_
  refine .run_bind (openAs_quiet services p.queries) fun queries => ?_
  refine .run_bind (.pure _) fun queryCount => ?_
  refine .run_bind (openNeighbors_quiet services config.stepName p) fun neighbors => ?_
  exact .run_bind (connectAs_quiet services config.stepName p.connection) fun client => .pure _

end QueryStep

namespace Registry

variable {ω δ : Type} [Dataset δ] (services : Services (StateM ω) δ)

theorem create_quiet (config : StepConfig) : Quiet ((builtin services.noted).create config) := by
  rw [builtin_create]
  split
  · exact (QueryStep.ofConfig_quiet services config).bind fun _ => .pure _
  · exact .pure _

theorem build_quiet (configs : List StepConfig) :
    Quiet ((builtin services.noted).build configs) := by
  induction configs with
  | nil => exact .pure _
  | cons config rest ih =>
    unfold build
    refine (create_quiet services config).bind fun created => ?_
    cases created with
    | error e => exact .pure _
    | ok step => exact ih.bind fun _ => .pure _

end Registry

end NeighborBench
