import NeighborBench.Proofs.Engine.Journal

/-! # A step runs once

However often a step is called, its action is run by the first call and by no other. The first answer
is what the action comes to, and every later one is a refusal.
-/

namespace NeighborBench

/-! ## What an action comes to -/

theorem checkMeasures_eq_ok_iff (label : String) (declared : List String)
    (measures found : Measures) :
    checkMeasures label declared measures = .ok found ↔
      measures = found ∧ ∀ name ∈ declared, name ∈ Keyed.keys measures := by
  unfold checkMeasures
  cases hfind : declared.find? fun name => (Keyed.get? name measures).isNone with
  | none =>
    have hall : ∀ name ∈ declared, name ∈ Keyed.keys measures := by
      simpa [Keyed.get?_eq_none_iff] using List.find?_eq_none.mp hfind
    simp only [Except.ok.injEq]
    exact ⟨fun h => ⟨h, hall⟩, And.left⟩
  | some missing =>
    have hdeclared := List.mem_of_find?_eq_some hfind
    have habsent : missing ∉ Keyed.keys measures := by
      simpa [Keyed.get?_eq_none_iff] using List.find?_some hfind
    simp only [reduceCtorEq, false_iff, not_and]
    intro _ hall
    exact habsent (hall missing hdeclared)

theorem checkMeasures_missing (label : String) (declared : List String) (measures : Measures)
    (h : ∃ name ∈ declared, name ∉ Keyed.keys measures) :
    ∃ earlier name later, declared = earlier ++ name :: later ∧
      (∀ other ∈ earlier, other ∈ Keyed.keys measures) ∧ name ∉ Keyed.keys measures ∧
      checkMeasures label declared measures = .error (.missingMeasure label name) := by
  cases hfind : declared.find? fun name => (Keyed.get? name measures).isNone with
  | none =>
    obtain ⟨name, hmem, habsent⟩ := h
    have hpresent := List.find?_eq_none.mp hfind name hmem
    simp [Keyed.get?_eq_none_iff, habsent] at hpresent
  | some missing =>
    obtain ⟨habsent, earlier, later, hsplit, hearlier⟩ := List.find?_eq_some_iff_append.mp hfind
    rw [Option.isNone_iff_eq_none, Keyed.get?_eq_none_iff] at habsent
    refine ⟨earlier, missing, later, hsplit, ?_, habsent, by rw [checkMeasures, hfind]⟩
    intro other hmem
    have hpresent := hearlier other hmem
    simp only [Bool.not_eq_true', Option.isNone_eq_false_iff] at hpresent
    by_contra habsent
    rw [(Keyed.get?_eq_none_iff other measures).mpr habsent] at hpresent
    simp at hpresent

/-! ## One call and many -/

namespace Step

section

variable {m : Type → Type} [Monad m] {σ : Type} [StepKind m σ]

/-- Calls a step so many times, whatever it answers. -/
def executeTimes : Nat → Step σ → m (List (Except StepError StepResult) × Step σ)
  | 0, step => pure ([], step)
  | n + 1, step => do
    let (answer, step) ← step.execute
    let (answers, step) ← executeTimes n step
    pure (answer :: answers, step)

/-- The status of a step that has answered. -/
def statusAfter : Except StepError StepResult → Status
  | .ok _ => .completed
  | .error _ => .failed

theorem statusAfter_isTerminal (answer : Except StepError StepResult) :
    (statusAfter answer).isTerminal = true := by
  cases answer <;> rfl

theorem execute_of_initialized (body : σ) :
    (⟨body, .initialized⟩ : Step σ).execute (m := m) = (do
      let (outcome, body) ← StepKind.action (m := m) body
      let answer := StepKind.answer m outcome body
      pure (answer, ⟨body, statusAfter answer⟩)) := by
  rw [execute_eq]
  simp only [Status.advance, Status.canBecome, if_true]
  congr 1
  funext ⟨outcome, body⟩
  simp only [StepKind.answer]
  cases outcome.bind (checkMeasures (StepKind.label m body) (StepKind.declared m body)) <;> rfl

theorem execute_of_terminal (step : Step σ) (h : step.status.isTerminal = true) :
    step.execute (m := m) = pure (.error (.status step.status .running), step) := by
  have hclosed : step.status.canBecome .running = false := by
    cases hstatus : step.status <;> simp_all [Status.isTerminal, Status.canBecome]
  rw [execute_eq]
  simp [Status.advance, hclosed]

variable [LawfulMonad m]

theorem executeTimes_of_terminal (step : Step σ) (h : step.status.isTerminal = true) (n : Nat) :
    executeTimes (m := m) n step =
      pure (List.replicate n (.error (.status step.status .running)), step) := by
  induction n with
  | zero => rfl
  | succ n ih => simp [executeTimes, execute_of_terminal step h, ih, List.replicate_succ]

/-- A step that is called `n + 1` times runs its action once. The first call answers what the action
comes to: its error; or its measures, if none that is declared is missing; or the first that is
missing. The step has then ended as that answer says, and the other calls are refused and do nothing
at all. -/
theorem executeTimes_runs_action_once (body : σ) (n : Nat) :
    executeTimes (m := m) (n + 1) ⟨body, .initialized⟩ = (do
      let (outcome, body) ← StepKind.action (m := m) body
      let answer := StepKind.answer m outcome body
      let status := statusAfter answer
      pure (answer :: List.replicate n (.error (.status status .running)), ⟨body, status⟩)) ∧
    ∀ (outcome : Except StepError Measures) (body : σ),
      let answer := StepKind.answer m outcome body
      let label := StepKind.label m body
      let declared := StepKind.declared m body
      (∀ result, answer = .ok result ↔ outcome = .ok result.measures ∧ result.label = label ∧
        ∀ name ∈ declared, name ∈ Keyed.keys result.measures) ∧
      (∀ measures, outcome = .ok measures → (∃ name ∈ declared, name ∉ Keyed.keys measures) →
        ∃ earlier name later, declared = earlier ++ name :: later ∧
          (∀ other ∈ earlier, other ∈ Keyed.keys measures) ∧ name ∉ Keyed.keys measures ∧
          answer = .error (.missingMeasure label name)) ∧
      (∀ e, outcome = .error e → answer = .error e) ∧
      (statusAfter answer = .completed ↔ ∃ result, answer = .ok result) ∧
      (statusAfter answer = .failed ↔ ∃ e, answer = .error e) := by
  refine ⟨?_, fun outcome body => ⟨fun result => ?_, fun measures houtcome missing => ?_,
    fun e houtcome => ?_, ?_, ?_⟩⟩
  · -- After the first call the step has ended, so the others are refused.
    have hlater : ∀ (answer : Except StepError StepResult) (body : σ),
        executeTimes (m := m) n ⟨body, statusAfter answer⟩ =
          pure (List.replicate n (.error (.status (statusAfter answer) .running)),
            ⟨body, statusAfter answer⟩) :=
      fun answer body => executeTimes_of_terminal _ (statusAfter_isTerminal answer) n
    simp [executeTimes, execute_of_initialized, hlater]
  · obtain ⟨label, measures⟩ := result
    cases outcome with
    | error e => simp [StepKind.answer, Except.bind, Except.map]
    | ok found =>
      have hchecked := checkMeasures_eq_ok_iff (StepKind.label m body) (StepKind.declared m body)
        found measures
      simp only [StepKind.answer, Except.bind, Except.ok.injEq]
      constructor
      · intro h
        cases hcheck : checkMeasures (StepKind.label m body) (StepKind.declared m body) found with
        | error e => simp [hcheck, Except.map] at h
        | ok kept =>
          obtain ⟨rfl, rfl⟩ : StepKind.label m body = label ∧ kept = measures := by
            simpa [hcheck, Except.map] using h
          obtain ⟨rfl, hall⟩ := hchecked.mp hcheck
          exact ⟨rfl, rfl, hall⟩
      · rintro ⟨rfl, rfl, hall⟩
        rw [hchecked.mpr ⟨rfl, hall⟩]
        rfl
  · obtain ⟨earlier, name, later, hsplit, hearlier, habsent, hcheck⟩ :=
      checkMeasures_missing (StepKind.label m body) (StepKind.declared m body) measures missing
    refine ⟨earlier, name, later, hsplit, hearlier, habsent, ?_⟩
    rw [StepKind.answer, houtcome, Except.bind, hcheck]
    rfl
  · rw [StepKind.answer, houtcome]
    rfl
  · cases StepKind.answer m outcome body <;> simp [statusAfter]
  · cases StepKind.answer m outcome body <;> simp [statusAfter]

end

/-- A step that counts its runs outside and forgets the second of its two measures. -/
inductive Forgetful where
  | counting

instance : StepKind (StateM Nat) Forgetful where
  label _ := "forgetful"
  declared _ := ["took", "runs"]
  action step := fun runs => ((.ok [("took", .series [1])], step), runs + 1)

/-- Three calls, and one run. -/
theorem forgetful_runs_once :
    (executeTimes (m := StateM Nat) 3 ⟨Forgetful.counting, .initialized⟩).run 0 =
      (([.error (.missingMeasure "forgetful" "runs"), .error (.status .failed .running),
        .error (.status .failed .running)], ⟨.counting, .failed⟩), 1) := by
  rw [(executeTimes_runs_action_once (m := StateM Nat) Forgetful.counting 2).1]
  rfl

end Step

end NeighborBench
