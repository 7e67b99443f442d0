import NeighborBench.Proofs.Engine.Journal

/-! # All steps are built, then they run until one fails -/

namespace NeighborBench

/-! ## What a list of steps can do -/

/-- How a list is built whose first constructor call has a number: each step is handed over in some
status, until a kind is not known or a constructor refuses. -/
inductive Building (known : String → Bool) :
    Nat → List StepConfig → List StepEvent → Except StepError (List Status) → Prop where
  | finished (first : Nat) : Building known first [] [] (.ok [])
  | unknown (first : Nat) (config : StepConfig) (rest : List StepConfig)
    (kind : known config.stepName = false) :
    Building known first (config :: rest) []
      (.error (.configuration (.unknownKind config.stepName)))
  | refused (first : Nat) (config : StepConfig) (rest : List StepConfig) (e : StepError)
    (kind : known config.stepName = true) :
    Building known first (config :: rest) [.constructed first config (.error e)] (.error e)
  | next (first : Nat) (config : StepConfig) (rest : List StepConfig) (status : Status)
    (events : List StepEvent) (answer : Except StepError (List Status))
    (kind : known config.stepName = true) (hrest : Building known (first + 1) rest events answer) :
    Building known first (config :: rest) (.constructed first config (.ok status) :: events)
      (answer.map (status :: ·))

/-- How steps run that were handed over in these statuses, until one fails. A step that does not wait
to be run fails without its action. -/
inductive StepsRun :
    Nat → List Status → List StepEvent → Except StepError (List StepResult) → Prop where
  | finished (first : Nat) : StepsRun first [] [] (.ok [])
  | barred (first : Nat) (status : Status) (rest : List Status) (h : status ≠ .initialized) :
    StepsRun first (status :: rest) [] (.error (.status status .running))
  | failed (first : Nat) (rest : List Status) (e : StepError) :
    StepsRun first (.initialized :: rest) [.ran first (.error e)] (.error e)
  | next (first : Nat) (rest : List Status) (result : StepResult) (events : List StepEvent)
    (answer : Except StepError (List StepResult)) (hrest : StepsRun (first + 1) rest events answer) :
    StepsRun first (.initialized :: rest) (.ran first (.ok result) :: events)
      (answer.map (result :: ·))

/-- The events and the answer of a list whose first constructor call has a number. -/
inductive ListRun (known : String → Bool) (first : Nat) (configs : List StepConfig) :
    List StepEvent → Except StepError (List StepResult) → Prop where
  | notBuilt (events : List StepEvent) (e : StepError)
    (h : Building known first configs events (.error e)) :
    ListRun known first configs events (.error e)
  | built (statuses : List Status) (made events : List StepEvent)
    (answer : Except StepError (List StepResult))
    (h : Building known first configs made (.ok statuses))
    (hrun : StepsRun first statuses events answer) :
    ListRun known first configs (made ++ events) answer

/-- The number of the step whose action an event starts. -/
def StepEvent.started? : StepEvent → Option Nat
  | .constructed .. => none
  | .ran number _ => some number

theorem exists_map_eq_ok {ε α β : Type} {answer : Except ε α} {f : α → β} :
    (∃ b, answer.map f = .ok b) ↔ ∃ a, answer = .ok a := by
  cases answer with
  | error e => simp [Except.map]
  | ok a => simp [Except.map]

/-! ## Building -/

namespace Building

variable {known : String → Bool} {first : Nat} {configs : List StepConfig}
  {events : List StepEvent} {answer : Except StepError (List Status)}

theorem started_nil (h : Building known first configs events answer) :
    events.filterMap StepEvent.started? = [] := by
  induction h with
  | finished first => rfl
  | unknown first config rest kind => rfl
  | refused first config rest e kind => rfl
  | next first config rest status events answer kind hrest ih => exact ih

theorem ran_not_mem (h : Building known first configs events answer) (number : Nat)
    (outcome : Except StepError StepResult) : .ran number outcome ∉ events := by
  intro hmem
  have hstarted : number ∈ events.filterMap StepEvent.started? :=
    List.mem_filterMap.mpr ⟨_, hmem, rfl⟩
  rw [h.started_nil] at hstarted
  cases hstarted

theorem length_eq (h : Building known first configs events answer) {statuses : List Status}
    (hok : answer = .ok statuses) : statuses.length = configs.length := by
  induction h generalizing statuses with
  | finished first =>
    cases hok
    rfl
  | unknown first config rest kind => cases hok
  | refused first config rest e kind => cases hok
  | next first config rest status events answer kind hrest ih =>
    cases answer with
    | error e => cases hok
    | ok more =>
      cases hok
      exact congrArg (· + 1) (ih rfl)

theorem succeeded_iff (h : Building known first configs events answer) :
    (∃ statuses, answer = .ok statuses) ↔ ∀ i < configs.length,
      ∃ config status, .constructed (first + i) config (.ok status) ∈ events := by
  induction h with
  | finished first => simp
  | unknown first config rest kind =>
    refine iff_of_false (by simp) fun hall => ?_
    obtain ⟨_, _, hmem⟩ := hall 0 (Nat.succ_pos _)
    cases hmem
  | refused first config rest e kind =>
    refine iff_of_false (by simp) fun hall => ?_
    obtain ⟨_, _, hmem⟩ := hall 0 (Nat.succ_pos _)
    simp at hmem
  | next first config rest status events answer kind hrest ih =>
    rw [exists_map_eq_ok, ih]
    constructor
    · intro hall i hi
      cases i with
      | zero => exact ⟨config, status, List.mem_cons_self⟩
      | succ i =>
        obtain ⟨other, later, hmem⟩ := hall i (Nat.lt_of_succ_lt_succ hi)
        rw [Nat.add_right_comm] at hmem
        exact ⟨other, later, List.mem_cons_of_mem _ hmem⟩
    · intro hall i hi
      obtain ⟨other, later, hmem⟩ := hall (i + 1) (Nat.succ_lt_succ hi)
      rw [← Nat.add_assoc, Nat.add_right_comm] at hmem
      -- The first call has another number.
      rcases List.mem_cons.mp hmem with hhead | htail
      · have hnumber := (StepEvent.constructed.inj hhead).1
        omega
      · exact ⟨other, later, htail⟩

end Building

/-! ## Running -/

namespace StepsRun

variable {first : Nat} {statuses : List Status} {events : List StepEvent}
  {answer : Except StepError (List StepResult)}

theorem constructed_not_mem (h : StepsRun first statuses events answer) (number : Nat)
    (config : StepConfig) (built : Except StepError Status) :
    .constructed number config built ∉ events := by
  induction h with
  | finished first => simp
  | barred first status rest h => simp
  | failed first rest e => simp
  | next first rest result events answer hrest ih => simp [ih]

theorem ran_succ_mem {result : StepResult} {i : Nat} {outcome : Except StepError StepResult} :
    .ran (first + (i + 1)) outcome ∈ .ran first (.ok result) :: events ↔
      .ran (first + 1 + i) outcome ∈ events := by
  have hplace : first + (i + 1) = first + 1 + i := by omega
  have hother : first + 1 + i ≠ first := by omega
  simp [hother, hplace]

theorem succeeded_iff (h : StepsRun first statuses events answer) :
    (∃ results, answer = .ok results) ↔
      ∀ i < statuses.length, ∃ result, .ran (first + i) (.ok result) ∈ events := by
  induction h with
  | finished first => simp
  | barred first status rest h =>
    refine iff_of_false (by simp) fun hall => ?_
    obtain ⟨_, hmem⟩ := hall 0 (Nat.succ_pos _)
    cases hmem
  | failed first rest e =>
    refine iff_of_false (by simp) fun hall => ?_
    obtain ⟨_, hmem⟩ := hall 0 (Nat.succ_pos _)
    simp at hmem
  | next first rest result events answer hrest ih =>
    rw [exists_map_eq_ok, ih]
    constructor
    · intro hall i hi
      cases i with
      | zero => exact ⟨result, List.mem_cons_self⟩
      | succ i =>
        obtain ⟨later, hmem⟩ := hall i (Nat.lt_of_succ_lt_succ hi)
        exact ⟨later, ran_succ_mem.mpr hmem⟩
    · intro hall i hi
      obtain ⟨later, hmem⟩ := hall (i + 1) (Nat.succ_lt_succ hi)
      exact ⟨later, ran_succ_mem.mp hmem⟩

theorem results_ran (h : StepsRun first statuses events answer) {results : List StepResult}
    (hok : answer = .ok results) :
    results.length = statuses.length ∧
      ∀ i result, results[i]? = some result → .ran (first + i) (.ok result) ∈ events := by
  induction h generalizing results with
  | finished first =>
    cases hok
    simp
  | barred first status rest h => cases hok
  | failed first rest e => cases hok
  | next first rest result events answer hrest ih =>
    cases answer with
    | error e => cases hok
    | ok more =>
      cases hok
      obtain ⟨hlength, hran⟩ := ih rfl
      refine ⟨congrArg (· + 1) hlength, fun i other hother => ?_⟩
      cases i with
      | zero =>
        cases hother
        exact List.mem_cons_self
      | succ i => exact ran_succ_mem.mpr (hran i other hother)

end StepsRun

/-! ## A whole list -/

namespace ListRun

variable {known : String → Bool} {first : Nat} {configs : List StepConfig}
  {events : List StepEvent} {answer : Except StepError (List StepResult)}

theorem results_ran (h : ListRun known first configs events answer) {results : List StepResult}
    (hok : answer = .ok results) :
    results.length = configs.length ∧
      ∀ i result, results[i]? = some result → .ran (first + i) (.ok result) ∈ events := by
  cases h with
  | notBuilt events e h => cases hok
  | built statuses made events answer h hrun =>
    obtain ⟨hlength, hran⟩ := hrun.results_ran hok
    refine ⟨hlength.trans (h.length_eq rfl), fun i result hresult => ?_⟩
    exact List.mem_append_right _ (hran i result hresult)

theorem succeeded_iff (h : ListRun known first configs events answer) :
    (∃ results, answer = .ok results) ↔
      (∀ i < configs.length,
        ∃ config status, .constructed (first + i) config (.ok status) ∈ events) ∧
      ∀ i < configs.length, ∃ result, .ran (first + i) (.ok result) ∈ events := by
  cases h with
  | notBuilt events e h =>
    refine iff_of_false (by simp) fun ⟨hall, _⟩ => ?_
    obtain ⟨_, hok⟩ := h.succeeded_iff.mpr hall
    cases hok
  | built statuses made events answer h hrun =>
    have hall := h.succeeded_iff.mp ⟨statuses, rfl⟩
    simp only [List.mem_append, h.ran_not_mem, hrun.constructed_not_mem, or_false, false_or,
      hrun.succeeded_iff, h.length_eq rfl]
    exact (and_iff_right hall).symm

end ListRun

/-! ## The run of a list -/

namespace Registry

variable {ω σ : Type}

theorem create_noted (r : Registry (StateM ω) σ) (config : StepConfig) (j : Journal ω) :
    (r.contains config.stepName = false ∧
      r.noted.create config j = (.error (.configuration (.unknownKind config.stepName)), j)) ∨
    (r.contains config.stepName = true ∧ ∃ (built : Except StepError (Step σ)) (outside : ω),
      r.noted.create config j = (built.map fun step => ⟨⟨j.calls, step.body⟩, step.status⟩,
        ⟨outside, j.calls + 1, j.events ++ [.constructed j.calls config (built.map (·.status))]⟩)) := by
  unfold create contains noted
  rw [Keyed.get?_map fun _ => Constructor.noted]
  cases Keyed.get? config.stepName r.kinds with
  | none => exact .inl ⟨rfl, rfl⟩
  | some construct =>
    exact .inr ⟨rfl, (construct config j.outside).1, (construct config j.outside).2, rfl⟩

/-- A list that was built: its steps have the numbers of their calls. -/
structure Numbering (first count calls : Nat) (steps : List (Step (Numbered σ))) : Prop where
  numbers : steps.map (·.body.number) = List.range' first count
  calls : calls = first + count

theorem build_noted (r : Registry (StateM ω) σ) (configs : List StepConfig) (j : Journal ω) :
    ∃ answer outside calls events,
      r.noted.build configs j = (answer, ⟨outside, calls, j.events ++ events⟩) ∧
      Building r.contains j.calls configs events (answer.map (·.map (·.status))) ∧
      ∀ steps, answer = .ok steps → Numbering j.calls configs.length calls steps := by
  -- The calls that were made give the next step its number, so the journal goes along.
  induction configs generalizing j with
  | nil =>
    refine ⟨.ok [], j.outside, j.calls, [], ?_, .finished _, ?_⟩
    · rw [List.append_nil]
      rfl
    · rintro _ ⟨⟩
      exact ⟨rfl, rfl⟩
  | cons config rest ih =>
    unfold build
    simp only [state_bind]
    rcases r.create_noted config j with ⟨hkind, hcreate⟩ | ⟨hkind, built, outside, hcreate⟩
    · rw [hcreate]
      refine ⟨.error (.configuration (.unknownKind config.stepName)), j.outside, j.calls, [], ?_,
        .unknown _ config rest hkind, nofun⟩
      rw [List.append_nil]
      rfl
    · rw [hcreate]
      cases built with
      | error e => exact ⟨.error e, _, _, _, rfl, .refused _ config rest e hkind, nofun⟩
      | ok step =>
        obtain ⟨answer, last, calls, events, hrun, h, hnumbers⟩ := ih
          ⟨outside, j.calls + 1, j.events ++ [.constructed j.calls config (.ok step.status)]⟩
        refine ⟨answer.map (⟨⟨j.calls, step.body⟩, step.status⟩ :: ·), last, calls,
          .constructed j.calls config (.ok step.status) :: events, ?_, ?_, ?_⟩
        · simp only [Except.map, state_bind] at hrun ⊢
          rw [hrun, List.append_assoc]
          rfl
        · have hnext := Building.next _ config _ step.status _ _ hkind h
          cases answer <;> exact hnext
        · intro steps hsteps
          cases answer with
          | error e => cases hsteps
          | ok more =>
            cases hsteps
            obtain ⟨hmore, hcalls⟩ := hnumbers more rfl
            refine ⟨?_, ?_⟩
            · rw [List.map_cons, hmore, List.length_cons, List.range'_succ]
            · rw [hcalls, List.length_cons, Nat.add_assoc, Nat.add_comm 1]

variable [StepKind (StateM ω) σ]

theorem execute_barred (step : Step (Numbered σ)) (h : step.status ≠ .initialized) (j : Journal ω) :
    step.execute (m := StateM (Journal ω)) j = ((.error (.status step.status .running), step), j) := by
  rw [Step.execute_eq]
  obtain ⟨body, status⟩ := step
  cases status with
  | initialized => exact absurd rfl h
  | _ => rfl

theorem execute_noted (step : Step (Numbered σ)) (fresh : step.status = .initialized)
    (j : Journal ω) :
    ∃ answer left outside, step.execute (m := StateM (Journal ω)) j =
      ((answer, left), ⟨outside, j.calls, j.events ++ [.ran step.body.number answer]⟩) := by
  rw [Step.execute_eq, fresh]
  simp only [Status.advance, Status.canBecome, if_true, state_bind]
  rcases haction : StepKind.action (m := StateM ω) step.body.body j.outside with
    ⟨⟨outcome, body⟩, outside⟩
  refine ⟨StepKind.answer (StateM ω) outcome body, ?_⟩
  simp only [StepKind.action, StepKind.label, StepKind.declared, haction, StepKind.answer]
  cases outcome.bind (checkMeasures (StepKind.label (StateM ω) body)
    (StepKind.declared (StateM ω) body)) with
  | error e => exact ⟨_, _, rfl⟩
  | ok measures => exact ⟨_, _, rfl⟩

theorem runSteps_noted (steps : List (Step (Numbered σ))) (first : Nat)
    (numbers : steps.map (·.body.number) = List.range' first steps.length) (j : Journal ω) :
    ∃ answer left outside events, runSteps (m := StateM (Journal ω)) steps j =
      ((answer, left), ⟨outside, j.calls, j.events ++ events⟩) ∧
      StepsRun first (steps.map (·.status)) events answer := by
  induction steps generalizing first j with
  | nil =>
    refine ⟨.ok [], [], j.outside, [], ?_, .finished first⟩
    rw [List.append_nil]
    rfl
  | cons step rest ih =>
    rw [List.map_cons, List.length_cons, List.range'_succ, List.cons.injEq] at numbers
    obtain ⟨hnumber, hnumbers⟩ := numbers
    unfold runSteps
    -- A step in any other status is refused before its action, and that ends the run.
    by_cases hfresh : step.status = .initialized
    · obtain ⟨answer, left, outside, hexecute⟩ := execute_noted step hfresh j
      rw [hnumber] at hexecute
      simp only [state_bind, hexecute, List.map_cons, hfresh]
      cases answer with
      | error e => exact ⟨_, _, _, _, rfl, .failed first _ e⟩
      | ok result =>
        obtain ⟨answer, more, last, events, hrun, h⟩ :=
          ih (first + 1) hnumbers ⟨outside, j.calls, j.events ++ [.ran first (.ok result)]⟩
        refine ⟨answer.map (result :: ·), left :: more, last, .ran first (.ok result) :: events, ?_,
          .next first _ result events answer h⟩
        simp only [state_bind, hrun]
        rw [List.append_assoc]
        rfl
    · simp only [state_bind, execute_barred step hfresh]
      refine ⟨_, step :: rest, j.outside, [], ?_, .barred first step.status _ hfresh⟩
      rw [List.append_nil]
      rfl

theorem run_noted (r : Registry (StateM ω) σ) (configs : List StepConfig) (j : Journal ω) :
    ∃ answer left outside calls events, r.noted.run configs j =
      ((answer, left), ⟨outside, calls, j.events ++ events⟩) ∧
      ListRun r.contains j.calls configs events answer ∧
      (∀ results, answer = .ok results → calls = j.calls + configs.length) := by
  obtain ⟨answer, outside, calls, events, hbuild, h, hnumbers⟩ := r.build_noted configs j
  unfold run
  rw [state_bind, hbuild]
  cases answer with
  | error e => exact ⟨.error e, [], outside, calls, events, rfl, .notBuilt events e h, nofun⟩
  | ok steps =>
    obtain ⟨hsteps, hcalls⟩ := hnumbers steps rfl
    have hlength := congrArg List.length hsteps
    rw [List.length_map, List.length_range'] at hlength
    rw [← hlength] at hsteps
    obtain ⟨answer, left, last, more, hrun, hran⟩ := runSteps_noted steps j.calls hsteps
      ⟨outside, calls, j.events ++ events⟩
    refine ⟨answer, left, last, calls, events ++ more, ?_, .built _ events more answer h hran,
      fun _ _ => hcalls⟩
    rw [← List.append_assoc]
    exact hrun

end Registry

end NeighborBench
