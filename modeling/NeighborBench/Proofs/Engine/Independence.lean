import NeighborBench.Proofs.Engine.SideBySide

/-! # Lists whose steps do not influence each other

Each configuration is built alike in any state outside, and steps that are alike act alike in any
state. A step then gives in a list what it gives alone, and in every run of the list the same.
-/

namespace NeighborBench

/-- Any two states match. -/
def anyStates {ω τ : Type} : ω → τ → Prop := fun _ _ => True

namespace Registry

variable {ω σ : Type} {like : σ → σ → Prop} {r : Registry (StateM ω) σ}

/-- The configuration can be built in any state, and is always built alike. -/
def Settled (like : σ → σ → Prop) (r : Registry (StateM ω) σ) (config : StepConfig) : Prop :=
  ∀ w t, ∃ step other, (r.create config w).1 = .ok step ∧ (r.create config t).1 = .ok other ∧
    step.Like like other

theorem createAlike_of_settled {configs : List StepConfig}
    (settled : ∀ config ∈ configs, r.Settled like config) :
    CreateAlike anyStates like r r configs := by
  intro config hmem w t _
  obtain ⟨step, other, hstep, hother, hlike⟩ := settled config hmem w t
  rw [hstep, hother]
  exact ⟨.ok _ _ hlike, trivial⟩

/-- The step is like what the configuration is built to, in any state. -/
def BuiltTo (like : σ → σ → Prop) (r : Registry (StateM ω) σ) (config : StepConfig)
    (step : Step σ) : Prop :=
  ∀ w, ∃ other, (r.create config w).1 = .ok other ∧ step.Like like other

theorem build_of_settled {configs : List StepConfig}
    (settled : ∀ config ∈ configs, r.Settled like config) (w : ω) :
    ∃ steps, (r.build configs w).1 = .ok steps ∧
      List.Forall₂ (r.BuiltTo like) configs steps := by
  induction configs generalizing w with
  | nil => exact ⟨[], rfl, .nil⟩
  | cons config rest ih =>
    obtain ⟨step, -, hstep, -, -⟩ := settled config (List.mem_cons_self ..) w w
    -- The step that is built here is the one of the first of any two states.
    have hbuilt : r.BuiltTo like config step := by
      intro t
      obtain ⟨same, other, hsame, hother, hlike⟩ := settled config (List.mem_cons_self ..) w t
      rw [hstep] at hsame
      cases hsame
      exact ⟨other, hother, hlike⟩
    obtain ⟨steps, hsteps, hrest⟩ := ih
      (fun other hmem => settled other (List.mem_cons_of_mem _ hmem)) (r.create config w).2
    refine ⟨step :: steps, ?_, .cons hbuilt hrest⟩
    unfold build
    simp only [state_bind, hstep, hsteps]
    rfl

variable [StepKind (StateM ω) σ] {same : Measures → Measures → Prop}

/-! ## One step after another -/

theorem run_single {config : StepConfig} {step : Step σ} {w : ω}
    (h : (r.create config w).1 = .ok step) :
    ∃ t, (r.run [config] w).1.1 = (step.execute (m := StateM ω) t).1.1.map ([·]) := by
  refine ⟨(r.create config w).2, ?_⟩
  unfold run build
  simp only [state_bind, h]
  change (runSteps (m := StateM ω) [step] (r.create config w).2).1.1 = _
  unfold runSteps
  rw [state_bind]
  rcases step.execute (m := StateM ω) (r.create config w).2 with ⟨⟨_ | result, left⟩, between⟩
  · rfl
  · rfl

/-- What a list comes to, from what each of its configurations comes to alone. -/
inductive Apart (same : Measures → Measures → Prop) (r : Registry (StateM ω) σ) :
    List StepConfig → Except StepError (List StepResult) → Prop where
  | finished : Apart same r [] (.ok [])
  | failed (config : StepConfig) (rest : List StepConfig) (e : StepError)
    (alone : ∀ w, (r.run [config] w).1.1 = .error e) : Apart same r (config :: rest) (.error e)
  | next (config : StepConfig) (rest : List StepConfig) (result : StepResult)
    (outcome : Except StepError (List StepResult))
    (alone : ∀ w, ∃ own, (r.run [config] w).1.1 = .ok [own] ∧ result.Same same own)
    (more : Apart same r rest outcome) : Apart same r (config :: rest) (outcome.map (result :: ·))

theorem runSteps_apart (kinds : KindsMatch (ω := ω) (τ := ω) anyStates like same)
    {configs : List StepConfig} {steps : List (Step σ)}
    (built : List.Forall₂ (r.BuiltTo like) configs steps) (w : ω) :
    Apart same r configs (runSteps (m := StateM ω) steps w).1.1 := by
  induction built generalizing w with
  | nil => exact .finished
  | @cons config step rest steps hbuilt hrest ih =>
    -- Alone the step is built in another state, and is like the one of the list.
    have halone : ∀ t, ∃ outcome : Except StepError StepResult,
        (r.run [config] t).1.1 = outcome.map ([·]) ∧
        AlikeOutcome (StepResult.Same same) (step.execute (m := StateM ω) w).1.1 outcome := by
      intro t
      obtain ⟨other, hother, hlike⟩ := hbuilt t
      obtain ⟨between, hrun⟩ := run_single hother
      exact ⟨_, hrun, (Step.execute_alongside kinds hlike w between trivial).1.1⟩
    unfold runSteps
    rw [state_bind]
    rcases hexecute : step.execute (m := StateM ω) w with ⟨⟨e | result, left⟩, between⟩
    · refine .failed config rest e fun t => ?_
      obtain ⟨outcome, hrun, halike⟩ := halone t
      rw [hexecute] at halike
      cases halike
      exact hrun
    · refine .next config rest result _ (fun t => ?_) (ih between)
      obtain ⟨outcome, hrun, halike⟩ := halone t
      rw [hexecute] at halike
      cases halike with
      | ok _ own hsame => exact ⟨own, hrun, hsame⟩

theorem run_apart (kinds : KindsMatch (ω := ω) (τ := ω) anyStates like same)
    {configs : List StepConfig}
    (settled : ∀ config ∈ configs, r.Settled like config) (w : ω) :
    Apart same r configs (r.run configs w).1.1 := by
  obtain ⟨steps, hsteps, hbuilt⟩ := build_of_settled settled w
  unfold run
  rw [state_bind, hsteps]
  exact runSteps_apart kinds hbuilt _

theorem Apart.of_ok {configs : List StepConfig} {results : List StepResult}
    (h : Apart same r configs (.ok results)) :
    List.Forall₂ (fun config result =>
      ∀ w, ∃ own, (r.run [config] w).1.1 = .ok [own] ∧ result.Same same own) configs results := by
  generalize houtcome : Except.ok results = outcome at h
  induction h generalizing results with
  | finished =>
    cases houtcome
    exact .nil
  | failed config rest e alone => cases houtcome
  | next config rest result outcome alone more ih =>
    cases outcome with
    | error e => cases houtcome
    | ok results =>
      cases houtcome
      exact .cons alone (ih rfl)

theorem Apart.of_error {configs : List StepConfig} {e : StepError}
    (h : Apart same r configs (.error e)) :
    ∃ earlier config later, configs = earlier ++ config :: later ∧
      (∀ other ∈ earlier, ∀ w, ∃ own, (r.run [other] w).1.1 = .ok [own]) ∧
      ∀ w, (r.run [config] w).1.1 = .error e := by
  generalize houtcome : Except.error e = outcome at h
  induction h with
  | finished => cases houtcome
  | failed config rest e alone =>
    cases houtcome
    exact ⟨[], config, rest, rfl, nofun, alone⟩
  | next config rest result outcome alone more ih =>
    cases outcome with
    | ok results => cases houtcome
    | error e =>
      cases houtcome
      obtain ⟨earlier, failing, later, rfl, hearlier, hfailing⟩ := ih rfl
      refine ⟨config :: earlier, failing, later, rfl, fun other hmem w => ?_, hfailing⟩
      rcases List.mem_cons.mp hmem with rfl | hmem
      · obtain ⟨own, hown, -⟩ := alone w
        exact ⟨own, hown⟩
      · exact hearlier other hmem w

theorem Apart.ok_iff {configs : List StepConfig} {outcome : Except StepError (List StepResult)}
    (h : Apart same r configs outcome) (w : ω) :
    (∃ results, outcome = .ok results) ↔
      ∀ config ∈ configs, ∃ own, (r.run [config] w).1.1 = .ok own := by
  cases outcome with
  | ok results =>
    refine ⟨fun _ => ?_, fun _ => ⟨results, rfl⟩⟩
    have hall : List.Forall₂ (fun config _ => (∃ own, (r.run [config] w).1.1 = .ok own) ∧ True)
        configs results := by
      refine h.of_ok.imp fun config result alone => ?_
      obtain ⟨own, hown, -⟩ := alone w
      exact ⟨⟨[own], hown⟩, trivial⟩
    exact ((List.forall₂_and_left configs results).mp hall).1
  | error e =>
    -- The step that fails in the list fails alone, so not every step succeeds alone.
    obtain ⟨earlier, config, later, hsplit, -, hfailing⟩ := h.of_error
    refine ⟨nofun, fun hall => ?_⟩
    obtain ⟨own, hown⟩ := hall config (by simp [hsplit])
    rw [hfailing w] at hown
    cases hown

/-! ## One run after another -/

theorem runTimes_of_ok (kinds : KindsMatch (ω := ω) (τ := ω) anyStates like same)
    {configs : List StepConfig} (settled : ∀ config ∈ configs, r.Settled like config) {w : ω}
    {results : List StepResult} (h : (r.run configs w).1.1 = .ok results) (n : Nat) (t : ω) :
    ∃ runs, (r.runTimes configs n t).1.1 = .ok runs ∧ runs.length = n ∧
      ∀ run ∈ runs, List.Forall₂ (StepResult.Same same) results run := by
  induction n generalizing t with
  | zero => exact ⟨[], rfl, rfl, nofun⟩
  | succ n ih =>
    -- The first run is like the one from `w`, and the others begin where it ends.
    have halike := (run_alongside kinds (createAlike_of_settled settled) w t trivial).1.1
    rw [runTimes_succ]
    rw [h] at halike
    rcases hrun : r.run configs t with ⟨⟨e | first, left⟩, between⟩
    · rw [hrun] at halike
      cases halike
    · rw [hrun] at halike
      cases halike with
      | ok _ _ hsame =>
        obtain ⟨runs, hruns, hlength, hall⟩ := ih between
        refine ⟨first :: runs, ?_, congrArg (· + 1) hlength, fun run hmem => ?_⟩
        · simp only [hruns]
          rfl
        · rcases List.mem_cons.mp hmem with rfl | hmem
          · exact hsame
          · exact hall run hmem

theorem run_of_runTimes (kinds : KindsMatch (ω := ω) (τ := ω) anyStates like same)
    {configs : List StepConfig} (settled : ∀ config ∈ configs, r.Settled like config) {n : Nat}
    {w : ω} {runs : List (List StepResult)} (h : (r.runTimes configs n w).1.1 = .ok runs) :
    runs.length = n ∧ ∀ run ∈ runs, ∀ t, ∃ results, (r.run configs t).1.1 = .ok results ∧
      List.Forall₂ (StepResult.Same same) run results := by
  induction n generalizing w runs with
  | zero =>
    cases h
    exact ⟨rfl, nofun⟩
  | succ n ih =>
    have halike : ∀ t, AlikeOutcome (List.Forall₂ (StepResult.Same same)) (r.run configs w).1.1
        (r.run configs t).1.1 := fun t =>
      (run_alongside kinds (createAlike_of_settled settled) w t trivial).1.1
    rw [runTimes_succ] at h
    rcases hrun : r.run configs w with ⟨⟨e | first, left⟩, between⟩
    · rw [hrun] at h
      cases h
    rw [hrun] at h halike
    rcases hmore : (r.runTimes configs n between).1.1 with e | more
    · simp only [hmore] at h
      cases h
    simp only [hmore] at h
    cases h
    obtain ⟨hlength, hall⟩ := ih hmore
    refine ⟨congrArg (· + 1) hlength, fun run hmem t => ?_⟩
    rcases List.mem_cons.mp hmem with rfl | hmem
    · have hfirst := halike t
      generalize (r.run configs t).1.1 = outcome at hfirst ⊢
      cases hfirst with
      | ok _ results hsame => exact ⟨results, rfl, hsame⟩
    · exact hall run hmem t

end Registry

end NeighborBench
