import NeighborBench.Proofs.Plan.Lists

/-! # A whole test -/

namespace NeighborBench

def Marks.noted {ω : Type} (marks : Marks (StateM ω)) : Marks (StateM (Journal ω)) :=
  ⟨Journal.unnoted marks.freshId, Journal.unnoted marks.now⟩

namespace TestPlan

/-- The id of a test and the time at which it starts. -/
def begin {m : Type → Type} [Monad m] (plan : TestPlan) (marks : Marks m) :
    m (String × String) := do
  let testId ← match plan.id with
    | some id => pure id
    | none => marks.freshId
  let startedAt ← marks.now
  pure (testId, startedAt)

variable {ω σ : Type} [StepKind (StateM ω) σ] {plan : TestPlan}
  {environment : ConnectionDefaults} {setup steps : List StepConfig}

theorem run_of_missing {registry : Registry (StateM ω) σ} {marks : Marks (StateM ω)} {part : Part}
    {i : Nat} (missing : plan.MissingName part i) (w : ω) :
    plan.run registry environment marks w = ((.error (.plan (.unnamed part i)), []), w) := by
  unfold run
  rw [configs_of_missing plan environment missing]
  rfl

theorem run_of_unknown {registry : Registry (StateM ω) σ} {marks : Marks (StateM ω)}
    {kinds : List String} {kind : String} (named : plan.kinds? = some kinds)
    (unknown : FirstUnknown registry.contains kinds kind) (w : ω) :
    plan.run registry environment marks w =
      ((.error (.step (.configuration (.unknownKind kind))), []), w) := by
  obtain ⟨setup, steps, -, -, hconfigs, rfl⟩ := configs_of_named plan environment named
  unfold run
  rw [hconfigs]
  simp only [registry.checkKinds_of_unknown unknown]
  rfl

theorem refused_or_started (plan : TestPlan) (registry : Registry (StateM ω) σ)
    (environment : ConnectionDefaults) (marks : Marks (StateM ω)) (w : ω) :
    (∃ e, plan.run registry environment marks w = ((.error e, []), w)) ∨
      ∃ setup steps, plan.configs environment = .ok (setup, steps) ∧
        registry.checkKinds (setup ++ steps) = .ok () := by
  rcases hconfigs : plan.configs environment with e | ⟨setup, steps⟩
  · left
    unfold run
    rw [hconfigs]
    exact ⟨e, rfl⟩
  rcases hkinds : registry.checkKinds (setup ++ steps) with e | ⟨⟩
  · left
    unfold run
    rw [hconfigs]
    simp only [hkinds]
    exact ⟨.step e, rfl⟩
  · exact .inr ⟨setup, steps, rfl, hkinds⟩

theorem run_of_known {registry : Registry (StateM ω) σ} {marks : Marks (StateM ω)}
    (hconfigs : plan.configs environment = .ok (setup, steps))
    (hkinds : registry.checkKinds (setup ++ steps) = .ok ()) (w : ω) :
    plan.run registry environment marks w =
      let begun := plan.begin marks w
      let ran := registry.runPlan setup steps plan.runs begun.2
      match ran.1.1 with
      | .error e => ((.error (.step e), ran.1.2), ran.2)
      | .ok runs =>
        ((.ok ⟨plan.name, begun.1.1, begun.1.2, (marks.now ran.2).1, plan.runs,
          summarize steps runs, if plan.showsRuns then some runs else none⟩, ran.1.2),
          (marks.now ran.2).2) := by
  have hrun : plan.run registry environment marks =
      plan.begin marks >>= fun begun =>
      registry.runPlan setup steps plan.runs >>= fun ran =>
      match ran.1 with
      | .error e => pure (.error (.step e), ran.2)
      | .ok runs =>
        marks.now >>= fun finishedAt =>
        pure (.ok ⟨plan.name, begun.1, begun.2, finishedAt, plan.runs, summarize steps runs,
          if plan.showsRuns then some runs else none⟩, ran.2) := by
    unfold run begin
    rw [hconfigs]
    simp only [hkinds, pure_bind]
    cases plan.id with
    | some id => rfl
    | none => rfl
  rw [hrun]
  simp only [state_bind]
  generalize plan.begin marks w = begun
  generalize registry.runPlan setup steps plan.runs begun.2 = ran
  cases ran.1.1 with
  | error e => rfl
  | ok runs => rfl

theorem runs_of_report {registry : Registry (StateM ω) σ} {marks : Marks (StateM ω)} {w : ω}
    {report : Report} (hconfigs : plan.configs environment = .ok (setup, steps))
    (h : (plan.run registry environment marks w).1.1 = .ok report) :
    ∃ runs between, (registry.runTimes steps plan.runs between).1.1 = .ok runs ∧
      report.steps = summarize steps runs ∧
      report.runs = if plan.showsRuns then some runs else none := by
  rcases plan.refused_or_started registry environment marks w with
    ⟨e, hrefused⟩ | ⟨_, _, hsame, hkinds⟩
  · rw [hrefused] at h
    cases h
  rw [hconfigs] at hsame
  cases hsame
  rw [run_of_known hconfigs hkinds] at h
  simp only [Registry.runPlan_eq] at h
  rcases hsetup : registry.run setup (plan.begin marks w).2 with ⟨⟨e | results, left⟩, between⟩
  · rw [hsetup] at h
    cases h
  by_cases crowded : roomFor Registry.runBytes < plan.runs
  · simp only [hsetup, if_pos crowded] at h
    cases h
  rcases hruns : registry.runTimes steps plan.runs between with ⟨⟨e | runs, more⟩, last⟩
  · simp only [hsetup, if_neg crowded, hruns] at h
    cases h
  · simp only [hsetup, if_neg crowded, hruns] at h
    cases h
    exact ⟨runs, between, by rw [hruns], rfl, rfl⟩

theorem begin_id {marks : Marks (StateM ω)} {id : String} (hid : plan.id = some id) (w : ω) :
    (plan.begin marks w).1.1 = id := by
  unfold begin
  rw [hid]
  rfl

theorem begin_noted (marks : Marks (StateM ω)) (j : Journal ω) :
    plan.begin marks.noted j =
      ((plan.begin marks j.outside).1, { j with outside := (plan.begin marks j.outside).2 }) := by
  unfold begin
  cases plan.id with
  | some id => rfl
  | none => rfl

end TestPlan

/-! ## What a test answers -/

namespace TestPlan

variable {ω σ : Type} [StepKind (StateM ω) σ]

theorem noted_run_eq (plan : TestPlan) (registry : Registry (StateM ω) σ)
    (environment : ConnectionDefaults) (marks : Marks (StateM ω)) (j : Journal ω) :
    (plan.run registry.noted environment marks.noted j).1.1 =
        (plan.run registry environment marks j.outside).1.1 ∧
      (plan.run registry.noted environment marks.noted j).2.outside =
        (plan.run registry environment marks j.outside).2 := by
  rcases hconfigs : plan.configs environment with e | ⟨setup, steps⟩
  · unfold run
    rw [hconfigs]
    exact ⟨rfl, rfl⟩
  have hcontains : registry.noted.checkKinds (setup ++ steps) =
      registry.checkKinds (setup ++ steps) := by
    unfold Registry.checkKinds
    simp only [Registry.noted_contains]
  rcases hkinds : registry.checkKinds (setup ++ steps) with e | ⟨⟩
  · rw [hkinds] at hcontains
    unfold run
    rw [hconfigs]
    simp only [hkinds, hcontains]
    exact ⟨rfl, rfl⟩
  rw [hkinds] at hcontains
  rw [run_of_known hconfigs hcontains, run_of_known hconfigs hkinds, begin_noted]
  obtain ⟨⟨hanswer, -⟩, houtside⟩ :=
    Registry.runPlan_alongside noted_kinds_match (registry.noted_create_alike setup)
      (registry.noted_create_alike steps) plan.runs
      { j with outside := (plan.begin marks j.outside).2 } _ rfl
  have hanswer := hanswer.eq fun runs others hsame => by
    rw [← List.forall₂_eq_eq_eq]
    exact hsame.imp fun _ _ => StepResult.all_eq_of_same
  simp only
  rw [hanswer]
  change Journal.outside _ = _ at houtside
  cases (registry.runPlan setup steps plan.runs (plan.begin marks j.outside).2).1.1 with
  | error e => exact ⟨rfl, houtside⟩
  | ok runs =>
    simp only [Marks.noted, Journal.unnoted]
    rw [houtside]
    exact ⟨rfl, rfl⟩

end TestPlan

/-- The report tells of these runs of the steps, and of no results but theirs. -/
structure Report.Of (plan : TestPlan) (steps : List StepConfig) (runs : List (List StepResult))
    (report : Report) : Prop where
  name : report.testName = plan.name
  id : ∀ id, plan.id = some id → report.testId = id
  asked : runs.length = plan.runs
  completed : report.numRuns = runs.length
  whole : ∀ results ∈ runs, results.length = steps.length
  summaries : report.steps =
    steps.mapIdx fun i config => .ofResults config (runs.filterMap (·[i]?))
  shown : report.runs = if plan.showsRuns then some runs else none

theorem ListsRun.drop_before {known : String → Bool} {first n : Nat} {setup steps : List StepConfig}
    {events : List StepEvent} {results : List (List StepResult)}
    (h : ListsRun known first (Registry.before setup ++ List.replicate n steps) events
      (.ok results)) :
    (results.drop (Registry.before setup).length).length = n ∧
      ∀ run ∈ results.drop (Registry.before setup).length, run.length = steps.length := by
  have hlengths : (results.drop (Registry.before setup).length).map List.length =
      List.replicate n steps.length := by
    rw [List.map_drop, h.lengths, ← List.map_drop, List.drop_left, List.map_replicate]
  refine ⟨?_, fun run hmem => ?_⟩
  · rw [← List.length_map List.length, hlengths, List.length_replicate]
  · have hlength := List.mem_map_of_mem (f := List.length) hmem
    rw [hlengths] at hlength
    exact List.eq_of_mem_replicate hlength

namespace TestPlan

variable {ω σ : Type} [StepKind (StateM ω) σ]

/-- All steps must have a name, and then all kinds must be known. Only then the setup runs, once,
and after it the steps as often as the test asks. The first list that fails ends the test. There must
be room for the results of all runs: where there is none, the test ends the program after the setup,
before it builds a step of the first run. -/
theorem run_setup_then_repetitions (plan : TestPlan) (registry : Registry (StateM ω) σ)
    (environment : ConnectionDefaults) (marks : Marks (StateM ω)) (outside : ω) :
    let ran := plan.run registry.noted environment marks.noted ⟨outside, 0, []⟩
    let answer := (plan.run registry environment marks outside).1.1
    ran.1.1 = answer ∧ ran.2.outside = (plan.run registry environment marks outside).2 ∧
    ((∃ part i, plan.MissingName part i ∧
        answer = .error (.plan (.unnamed part i)) ∧ ran.2 = ⟨outside, 0, []⟩) ∨
      (∃ kinds kind, plan.kinds? = some kinds ∧ FirstUnknown registry.contains kinds kind ∧
        answer = .error (.step (.configuration (.unknownKind kind))) ∧
        ran.2 = ⟨outside, 0, []⟩) ∨
      ∃ kinds setup steps, plan.kinds? = some kinds ∧
        (∀ kind ∈ kinds, registry.contains kind = true) ∧
        plan.setup.mapM (stepConfig (plan.implicit environment)) = some setup ∧
        plan.steps.mapM (stepConfig (plan.implicit environment)) = some steps ∧
        (plan.runs ≤ 0x7FFF_FFFF_FFFF_FFFF / 24 → ∃ outcome,
          ListsRun registry.contains 0 (Registry.before setup ++ List.replicate plan.runs steps)
            ran.2.events outcome ∧
          (∀ e, outcome = .error e → answer = .error (.step e)) ∧
          ∀ results, outcome = .ok results → ∃ report, answer = .ok report ∧
            report.Of plan steps (results.drop (Registry.before setup).length)) ∧
        (0x7FFF_FFFF_FFFF_FFFF / 24 < plan.runs → ∃ outcome,
          ListsRun registry.contains 0 (Registry.before setup) ran.2.events outcome ∧
          (∀ e, outcome = .error e → answer = .error (.step e)) ∧
          ∀ results, outcome = .ok results → answer = .error (.step (.noRoom plan.runs)))) := by
  intro ran answer
  have hanswer : ran.1.1 = answer :=
    (plan.noted_run_eq registry environment marks ⟨outside, 0, []⟩).1
  have houtside := (plan.noted_run_eq registry environment marks ⟨outside, 0, []⟩).2
  refine ⟨hanswer, houtside, ?_⟩
  rw [← hanswer]
  rcases plan.missing_or_named with ⟨part, i, missing⟩ | ⟨kinds, named⟩
  · -- A step has no name.
    have hran : ran = _ := run_of_missing missing _
    rw [hran]
    exact .inl ⟨part, i, missing, rfl, rfl⟩
  right
  rcases unknown_or_known registry.contains kinds with ⟨kind, unknown⟩ | known
  · -- All have names, and a kind is not known.
    have hnoted : FirstUnknown registry.noted.contains kinds kind := by
      rw [funext registry.noted_contains]
      exact unknown
    have hran : ran = _ := run_of_unknown named hnoted _
    rw [hran]
    exact .inl ⟨kinds, kind, named, unknown, rfl, rfl⟩
  right
  obtain ⟨setup, steps, hsetup, hsteps, hconfigs, rfl⟩ := configs_of_named plan environment named
  have hnoted : registry.noted.checkKinds (setup ++ steps) = .ok () := by
    refine registry.noted.checkKinds_of_known fun kind hmem => ?_
    rw [registry.noted_contains]
    exact known kind hmem
  have hran : ran = _ := run_of_known hconfigs hnoted _
  rw [begin_noted] at hran
  obtain ⟨answered, left, last, calls, events, hplan, hroom, hcrowded⟩ :=
    registry.runPlan_noted setup steps plan.runs ⟨(plan.begin marks outside).2, 0, []⟩
  simp only [hplan] at hran
  refine ⟨_, setup, steps, named, known, hsetup, hsteps, fun room => ?_, fun crowded => ?_⟩
  · -- The first lists of all are those of the setup; the report leaves them out.
    obtain ⟨outcome, h, rfl⟩ := hroom room
    cases outcome with
    | error e =>
      rw [hran]
      refine ⟨.error e, h, ?_, nofun⟩
      rintro _ ⟨⟩
      rfl
    | ok results =>
      obtain ⟨hruns, hwhole⟩ := h.drop_before
      rw [hran]
      refine ⟨.ok results, h, nofun, ?_⟩
      rintro _ ⟨⟩
      refine ⟨_, rfl, rfl, fun id hid => ?_, hruns, hruns.symm, hwhole, rfl, rfl⟩
      rw [begin_id hid]
  · obtain ⟨outcome, h, rfl⟩ := hcrowded crowded
    rw [hran]
    cases outcome with
    | error e =>
      refine ⟨.error e, h, ?_, nofun⟩
      rintro _ ⟨⟩
      rfl
    | ok results => exact ⟨.ok results, h, nofun, fun _ _ => rfl⟩

end TestPlan

/-! ## More runs than there is room for -/

theorem ListsRun.first_called {known : String → Bool} {first : Nat} {config : StepConfig}
    {configs : List StepConfig} {lists : List (List StepConfig)} {events : List StepEvent}
    {outcome : Except StepError (List (List StepResult))}
    (h : ListsRun known first ((config :: configs) :: lists) events outcome)
    (kind : known config.stepName = true) : events ≠ [] := by
  have hbuilding : ∀ {made : List StepEvent} {answer : Except StepError (List Status)},
      Building known first (config :: configs) made answer → made ≠ [] := by
    intro made answer hmade
    cases hmade with
    | unknown _ _ _ unknown =>
      rw [kind] at unknown
      cases unknown
    | refused => simp
    | next => simp
  have hlist : ∀ {made : List StepEvent} {answer : Except StepError (List StepResult)},
      ListRun known first (config :: configs) made answer → made ≠ [] := by
    intro made answer hmade
    cases hmade with
    | notBuilt _ _ hmade => exact hbuilding hmade
    | built _ _ _ _ hmade => simp [hbuilding hmade]
  cases h with
  | stopped _ _ _ _ _ h => exact hlist h
  | next _ _ _ _ _ _ _ h => simp [hlist h]

/-- A step that answers at once. -/
structure Prompt where
  label : String
  answer : Except StepError Measures

instance : StepKind (StateM Unit) Prompt where
  label := Prompt.label
  declared _ := []
  action s := pure (s.answer, s)

/-- One kind that fails and one that does not. -/
def prompt : Registry (StateM Unit) Prompt where
  kinds := [("broken", fun _ => pure (.ok ⟨⟨"broken", .error .degenerateRecall⟩, .initialized⟩)),
    ("warm", fun _ => pure (.ok ⟨⟨"warm", .ok []⟩, .initialized⟩))]

def manyRuns : TestPlan where
  connection := {}
  name := "many"
  id := some "many"
  runs := 1000000000000000000
  showsRuns := false
  setup := [[("name", .string "warm")]]
  steps := [[("name", .string "broken")]]

/-- The setup runs, and the step that would fail is not even built. -/
theorem manyRuns_are_not_begun :
    let ran := manyRuns.run prompt.noted {} (Marks.noted ⟨pure "", pure ""⟩) ⟨(), 0, []⟩
    manyRuns.check = .ok manyRuns ∧
    ran.2.events = [.constructed 0 ⟨"warm", [], []⟩ (.ok .initialized), .ran 0 (.ok ⟨"warm", []⟩)] ∧
    ran.1.1 = .error (.step (.noRoom 1000000000000000000)) ∧
    ¬∃ outcome, ListsRun prompt.contains 0
      ([⟨"warm", [], []⟩] :: List.replicate manyRuns.runs [⟨"broken", [], []⟩]) ran.2.events
      outcome := by
  intro ran
  have hconfigs : manyRuns.configs {} = .ok ([⟨"warm", [], []⟩], [⟨"broken", [], []⟩]) := rfl
  have hran : ran = _ := TestPlan.run_of_known hconfigs rfl _
  have hsetup : prompt.noted.run [⟨"warm", [], []⟩] ⟨(), 0, []⟩ =
      ((.ok [⟨"warm", []⟩], [⟨⟨0, ⟨"warm", .ok []⟩⟩, .completed⟩]),
        ⟨(), 1, [.constructed 0 ⟨"warm", [], []⟩ (.ok .initialized), .ran 0 (.ok ⟨"warm", []⟩)]⟩) :=
    rfl
  have hbegin : (manyRuns.begin (Marks.noted ⟨pure "", pure ""⟩) ⟨(), 0, []⟩).2 =
      (⟨(), 0, []⟩ : Journal Unit) := rfl
  have hcrowded : roomFor Registry.runBytes < manyRuns.runs := by decide
  simp only [Registry.runPlan_eq, hbegin, hsetup, if_pos hcrowded] at hran
  rw [hran]
  refine ⟨rfl, rfl, rfl, fun ⟨outcome, h⟩ => ?_⟩
  have hruns : manyRuns.runs = 999999999999999999 + 1 := rfl
  rw [hruns, List.replicate_succ] at h
  generalize List.replicate 999999999999999999 _ = others at h
  simp only at h
  generalize hevents : [StepEvent.constructed 0 _ _, _] = events at h
  cases h with
  | stopped _ _ _ _ e h =>
    -- All that was noted ended well.
    subst hevents
    obtain ⟨_, hok⟩ := h.succeeded_iff.mpr (by simp)
    cases hok
  | next _ _ _ events more results outcome h hrest =>
    obtain ⟨hbuilt, hran⟩ := h.succeeded_iff.mp ⟨results, rfl⟩
    obtain ⟨_, hlast⟩ := hran 0 (by simp)
    have hnone : more = [] := by
      rcases events with _ | ⟨first, _ | ⟨second, tail⟩⟩
      · cases hlast
      · cases hevents
        simp at hlast
      · simp at hevents
        exact hevents.2.2.2
    exact hrest.first_called rfl hnone

end NeighborBench
