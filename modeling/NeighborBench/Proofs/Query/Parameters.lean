import NeighborBench.Proofs.Success
import NeighborBench.Query.Parameters

/-! # Parameters that were resolved -/

namespace NeighborBench

theorem StepConfig.positive_eq_ok (c : StepConfig) (key : String) (default : Int) (n : Nat) :
    c.positive key default = .ok n ↔ 0 < n ∧ c.int key (some default) = .ok (n : Int) := by
  unfold positive
  rw [except_bind_ok]
  constructor
  · rintro ⟨value, hvalue, h⟩
    split at h
    · rename_i hpos
      cases h
      refine ⟨by omega, ?_⟩
      rw [hvalue, Int.toNat_of_nonneg (by omega)]
    · cases h
  · rintro ⟨hpos, hvalue⟩
    refine ⟨n, hvalue, ?_⟩
    rw [if_pos (by omega)]
    rfl

namespace QueryParameters

/-- Each parameter is what its key resolves to. -/
structure Resolved (c : StepConfig) (p : QueryParameters) : Prop where
  endpoint : c.string "endpoint" (some Defaults.endpoint) = .ok p.connection.endpoint
  port : c.int "port" (some (Defaults.port p.connection.endpoint)) = .ok (p.connection.port : Int)
  portInRange : p.connection.port ≤ 65535
  timeout : c.positive "timeout" Defaults.timeout = .ok p.connection.timeout
  k : c.positive "k" Defaults.k = .ok p.k
  r : c.positive "r" Defaults.r = .ok p.r
  indexName : c.string "index_name" none = .ok p.indexName
  fieldName : c.string "field_name" none = .ok p.fieldName
  calculateRecall : c.bool "calculate_recall" (some false) = .ok p.calculateRecall
  format : c.string "dataset_format" (some Defaults.datasetFormat) = .ok p.queries.format
  path : c.string "dataset_path" none = .ok p.queries.path
  role : p.queries.role = .query
  neighborsFormat :
    c.string "neighbors_format" (some Defaults.datasetFormat) = .ok p.neighborsFormat
  neighborsPath : c.optionalString "neighbors_path" = .ok p.neighborsPath

theorem port_refused (port : Int) :
    (decide (port < 0) || decide (portLimit < port)) = true ↔ ¬(0 ≤ port ∧ port ≤ 65535) := by
  rw [Bool.or_eq_true, decide_eq_true_eq, decide_eq_true_eq, portLimit]
  omega

theorem ofConfig_eq_ok (c : StepConfig) (p : QueryParameters) :
    ofConfig c = .ok p ↔ Resolved c p := by
  unfold ofConfig
  simp only [port_refused]
  constructor
  · intro h
    simp only [except_bind_ok] at h
    obtain ⟨endpoint, hendpoint, port, hport, h⟩ := h
    split at h
    · cases h
    · rename_i hrange
      simp only [except_bind_ok] at h
      obtain ⟨timeout, htimeout, k, hk, r, hr, indexName, hindexName, fieldName, hfieldName,
        scored, hscored, format, hformat, path, hpath, neighborsFormat, hneighborsFormat,
        neighborsPath, hneighborsPath, h⟩ := h
      cases h
      have hbounds : 0 ≤ port ∧ port ≤ 65535 := Classical.not_not.mp hrange
      have hwhole : (port.toNat : Int) = port := Int.toNat_of_nonneg hbounds.1
      have hlimit : port.toNat ≤ 65535 := by omega
      exact {
        endpoint := hendpoint, port := by rw [hport, hwhole], portInRange := hlimit
        timeout := htimeout, k := hk, r := hr, indexName := hindexName, fieldName := hfieldName
        calculateRecall := hscored, format := hformat, path := hpath, role := rfl
        neighborsFormat := hneighborsFormat, neighborsPath := hneighborsPath }
  · intro h
    have hlimit := h.portInRange
    have hrange : 0 ≤ (p.connection.port : Int) ∧ (p.connection.port : Int) ≤ 65535 := by omega
    rw [except_bind_ok]
    refine ⟨_, h.endpoint, ?_⟩
    rw [except_bind_ok]
    refine ⟨_, h.port, ?_⟩
    rw [if_neg (Classical.not_not.mpr hrange), h.timeout, h.k, h.r, h.indexName, h.fieldName,
      h.calculateRecall, h.format, h.path, h.neighborsFormat, h.neighborsPath, ← h.role]
    rfl

theorem queryCount_le (c : StepConfig) (size count : Nat) (h : queryCount c size = .ok count) :
    count ≤ size := by
  unfold queryCount at h
  rw [except_bind_ok] at h
  obtain ⟨requested, -, h⟩ := h
  split at h
  · cases h
  · cases h
    exact Nat.min_le_right _ _

end QueryParameters

end NeighborBench
