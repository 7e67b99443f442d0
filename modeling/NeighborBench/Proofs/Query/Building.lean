import NeighborBench.Proofs.Query.Parameters
import NeighborBench.Query.Step

/-! # Steps that were built -/

namespace NeighborBench.QueryStep

variable {σ δ : Type}

theorem openNeighbors_ok (services : Services (StateM σ) δ) (step : String) (p : QueryParameters)
    (neighbors : Option δ) (before after : σ)
    (h : (openNeighbors services step p).run.run before = (.ok neighbors, after)) :
    neighbors.isSome = p.calculateRecall := by
  unfold openNeighbors at h
  split at h
  · rename_i hrecall
    split at h
    · cases h
    · rw [map_eq_pure_bind, run_bind_ok] at h
      obtain ⟨d, between, -, h⟩ := h
      rw [run_pure_ok] at h
      rw [← h.1, hrecall]
      rfl
  · rename_i hrecall
    rw [run_pure_ok] at h
    rw [← h.1, eq_false_of_ne_true hrecall]
    rfl

theorem openNeighbors_opened (services : Services (StateM σ) δ) (step : String) (p : QueryParameters)
    (d : δ) (before after : σ)
    (h : (openNeighbors services step p).run.run before = (.ok (some d), after)) :
    ∃ ref opened held, ref.role = .neighbors ∧
      services.openDataset ref opened = (.ok d, held) := by
  unfold openNeighbors at h
  split at h
  · split at h
    · cases h
    · rw [map_eq_pure_bind, run_bind_ok] at h
      obtain ⟨found, between, hopened, h⟩ := h
      rw [run_pure_ok] at h
      obtain ⟨hfound, -⟩ := h
      cases hfound
      rw [openAs, run_mapError_ok] at hopened
      exact ⟨_, _, _, rfl, hopened⟩
  · cases h

variable [Dataset δ]

/-- What is known of a step that was built from parameters. -/
structure Built (services : Services (StateM σ) δ) (config : StepConfig) (p : QueryParameters)
    (s : QueryStep (StateM σ) δ) : Prop where
  resolved : p.Resolved config
  connection : s.connection = p.connection
  k : s.k = p.k
  r : s.r = p.r
  indexName : s.indexName = p.indexName
  fieldName : s.fieldName = p.fieldName
  queries : ∃ before after, services.openDataset p.queries before = (.ok s.queries, after)
  queryCount : QueryParameters.queryCount config (Dataset.size s.queries) = .ok s.queryCount
  calculatesRecall : s.calculatesRecall = p.calculateRecall
  neighbors : s.neighbors.isSome = p.calculateRecall
  client : ∃ before after, services.connect p.connection before = (.ok s.client, after)
  clock : s.clock = services.clock

theorem built_of_ofConfig (services : Services (StateM σ) δ) (config : StepConfig)
    (s : QueryStep (StateM σ) δ) (before after : σ)
    (h : ofConfig services config before = (.ok s, after)) : ∃ p, Built services config p s := by
  unfold ofConfig at h
  change (build services config).run.run before = _ at h
  unfold build at h
  simp only [run_bind_ok, run_mk_pure_ok, run_pure_ok, openAs, connectAs, run_mapError_ok] at h
  obtain ⟨p, _, ⟨hp, rfl⟩, queries, opened, hqueries, queryCount, _, ⟨hcount, rfl⟩, neighbors,
    held, hneighbors, client, _, hclient, rfl, rfl⟩ := h
  refine ⟨p, ?_⟩
  exact {
    resolved := (QueryParameters.ofConfig_eq_ok config p).mp hp
    connection := rfl, k := rfl, r := rfl, indexName := rfl, fieldName := rfl
    calculatesRecall := rfl, queries := ⟨_, _, hqueries⟩, queryCount := hcount
    neighbors := openNeighbors_ok services config.stepName p neighbors opened held hneighbors
    client := ⟨_, _, hclient⟩, clock := rfl }

theorem neighbors_of_ofConfig (services : Services (StateM σ) δ) (config : StepConfig)
    (s : QueryStep (StateM σ) δ) (before after : σ)
    (h : ofConfig services config before = (.ok s, after)) :
    ∃ p opened held, QueryParameters.ofConfig config = .ok p ∧
      (openNeighbors services config.stepName p).run.run opened = (.ok s.neighbors, held) := by
  unfold ofConfig at h
  change (build services config).run.run before = _ at h
  unfold build at h
  simp only [run_bind_ok, run_mk_pure_ok, run_pure_ok] at h
  obtain ⟨p, _, ⟨hp, rfl⟩, queries, opened, -, queryCount, _, ⟨-, rfl⟩, neighbors, held,
    hneighbors, client, _, -, rfl, rfl⟩ := h
  exact ⟨p, _, held, hp, hneighbors⟩

end NeighborBench.QueryStep

namespace NeighborBench.Registry

theorem builtin_create {m : Type → Type} [Monad m] {δ : Type} [Dataset δ] (services : Services m δ)
    (config : StepConfig) :
    (builtin services).create config =
      if QueryStep.kindLabel = config.stepName then QueryStep.construct services id config
      else pure (.error (.configuration (.unknownKind config.stepName))) := by
  have hfound : Keyed.get? config.stepName (builtin services).kinds =
      if QueryStep.kindLabel = config.stepName then some (QueryStep.construct services id)
      else none := rfl
  unfold create
  rw [hfound]
  by_cases hlabel : QueryStep.kindLabel = config.stepName
  · rw [if_pos hlabel, if_pos hlabel]
  · rw [if_neg hlabel, if_neg hlabel]

end NeighborBench.Registry
