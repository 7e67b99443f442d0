import NeighborBench.Proofs.Query.Faults
import NeighborBench.Proofs.Query.Scores
import NeighborBench.Proofs.Step.Lifecycle

/-! # Measures that are declared and measures that are made

A step declares the measures of recall if it is told to calculate recall, and makes them if it holds
neighbours. A step that was built does both or neither, and no run changes that.
-/

namespace NeighborBench

/-! ## Parameters of a built step -/

theorem StepConfig.resolve_of_required {α : Type} {c : StepConfig} {key : String}
    {expected : ValueType} {convert : Json → Option α} {a : α}
    (h : c.resolve key expected none convert = .ok a) (default : Option α) :
    c.resolve key expected default convert = .ok a := by
  unfold resolve at h ⊢
  split at h
  · exact h
  · cases h

namespace QueryParameters

theorem queryCount_of_requested {c : StepConfig} {size count : Nat} {requested : Int}
    (h : queryCount c size = .ok count) (hrequested : c.int "query_count" none = .ok requested) :
    0 ≤ requested ∧ count = min requested.toNat size := by
  unfold queryCount at h
  rw [except_bind_ok] at h
  obtain ⟨found, hfound, h⟩ := h
  have hsame : found = requested := by
    have hresolved := StepConfig.resolve_of_required hrequested
      (some (min (size : Int) 0x7FFF_FFFF_FFFF_FFFF))
    exact Except.ok.inj (hfound.symm.trans hresolved)
  subst hsame
  split at h
  · cases h
  · cases h
    omega

theorem queryCount_of_silent {c : StepConfig} {size count : Nat}
    (h : queryCount c size = .ok count) (silent : c.lookup "query_count" = none)
    (hsize : size ≤ 0x7FFF_FFFF_FFFF_FFFF) : count = size := by
  unfold queryCount StepConfig.int StepConfig.resolve at h
  rw [silent] at h
  simp only [except_bind_ok, Except.ok.injEq, exists_eq_left'] at h
  split at h
  · cases h
  · cases h
    omega

end QueryParameters

namespace QueryStep

/-! ## Names -/

theorem recallAtR_toList (r : Nat) :
    (recallAtR r).toList = ['r', 'e', 'c', 'a', 'l', 'l', '@'] ++ Nat.toDigits 10 r := by
  simp [recallAtR, toString, String.toList_append, Nat.toList_repr]

theorem recallAtR_ne_recallAtK (r : Nat) : recallAtR r ≠ recallAtK := by
  -- A number is not written with the letter.
  intro h
  have hchars := congrArg String.toList h
  rw [recallAtR_toList] at hchars
  have hletter : Nat.toDigits 10 r = ['K'] := by simpa [recallAtK] using hchars
  have hdigit : 'K'.isDigit = true :=
    Nat.isDigit_of_mem_toDigits (by decide) (by decide) (hletter ▸ List.mem_singleton_self 'K')
  exact absurd hdigit (by decide)

theorem recallAtR_ne {name : String} (h : name.toList.head? ≠ some 'r') (r : Nat) :
    recallAtR r ≠ name := by
  rintro rfl
  rw [recallAtR_toList] at h
  exact h rfl

theorem names_nodup (r : Nat) :
    ["took", "memory_kb", "client_time", recallAtK, recallAtR r].Nodup := by
  have htook : recallAtR r ≠ "took" := recallAtR_ne (by decide) r
  have hmemory : recallAtR r ≠ "memory_kb" := recallAtR_ne (by decide) r
  have htime : recallAtR r ≠ "client_time" := recallAtR_ne (by decide) r
  have hk : recallAtR r ≠ "recall@K" := recallAtR_ne_recallAtK r
  simp [recallAtK, htook.symm, hmemory.symm, htime.symm, hk.symm]

variable {ω δ : Type}

theorem declared_nodup (s : QueryStep (StateM ω) δ) : s.declared.Nodup := by
  unfold declared
  split
  · exact names_nodup s.r
  · decide

/-! ## What a run leaves -/

def Equipped (s : QueryStep (StateM ω) δ) : Prop := s.neighbors.isSome = s.calculatesRecall

/-- A later state of a step, which declares the same and is equipped alike. -/
structure Keeps (s left : QueryStep (StateM ω) δ) : Prop where
  calculatesRecall : left.calculatesRecall = s.calculatesRecall
  r : left.r = s.r
  neighbors : left.neighbors.isSome = s.neighbors.isSome

theorem Keeps.refl (s : QueryStep (StateM ω) δ) : s.Keeps s := ⟨rfl, rfl, rfl⟩

theorem Keeps.trans {s between left : QueryStep (StateM ω) δ} (first : s.Keeps between)
    (later : between.Keeps left) : s.Keeps left :=
  ⟨later.calculatesRecall.trans first.calculatesRecall, later.r.trans first.r,
    later.neighbors.trans first.neighbors⟩

theorem Keeps.declared_eq {s left : QueryStep (StateM ω) δ} (h : s.Keeps left) :
    left.declared = s.declared := by
  unfold declared
  rw [h.calculatesRecall, h.r]

theorem Keeps.equipped {s left : QueryStep (StateM ω) δ} (h : s.Keeps left) (equipped : s.Equipped) :
    left.Equipped := by
  unfold Equipped
  rw [h.neighbors, h.calculatesRecall, equipped]

variable [Dataset δ]

theorem recalls_isSome (s : QueryStep (StateM ω) δ) (trials : List Trial) :
    (s.recalls trials).2.isSome = s.neighbors.isSome := by
  unfold recalls
  split
  · next hnone => rw [hnone]
  · next neighbors hneighbors =>
    rw [hneighbors]
    split <;> rfl

theorem settle_keeps (s : QueryStep (StateM ω) δ) (outcome : Except StepError (List Trial))
    (queries : δ) : s.Keeps (s.settle outcome queries).2 := by
  unfold settle
  cases outcome with
  | error e => exact ⟨rfl, rfl, rfl⟩
  | ok trials =>
    have hheld := s.recalls_isSome trials
    simp only
    generalize s.recalls trials = recalled at hheld ⊢
    rcases recalled with ⟨e | recalled, neighbors⟩
    · exact ⟨rfl, rfl, hheld⟩
    · simp only
      rcases Dataset.reset queries with ⟨e | _, start⟩
      · exact ⟨rfl, rfl, hheld⟩
      · exact ⟨rfl, rfl, hheld⟩

theorem action_keeps (s : QueryStep (StateM ω) δ) (w : ω) : s.Keeps (s.action.run w).1.2 := by
  rw [action_run s w _ _ _ rfl]
  exact s.settle_keeps _ _

/-! ## What a run measures -/

theorem action_ok {s : QueryStep (StateM ω) δ} {w : ω} {measures : Measures}
    (h : (s.action.run w).1.1 = .ok measures) :
    ∃ trials recalled, (s.recalls trials).1 = .ok recalled ∧
      seriesOf trials ++ recalled = measures := by
  rcases htrials : s.allTrials.run w with ⟨⟨outcome, left⟩, after⟩
  rw [action_run s w after outcome left htrials] at h
  cases outcome with
  | error e => cases h
  | ok trials =>
    obtain ⟨recalled, hrecalled, -, hmeasures⟩ := (s.settle_eq_ok trials _ measures).mp h
    exact ⟨trials, recalled, hrecalled, hmeasures⟩

theorem keys_recalled {s : QueryStep (StateM ω) δ} {trials : List Trial} {recalled : Measures}
    (equipped : s.Equipped) (h : (s.recalls trials).1 = .ok recalled) :
    Keyed.keys recalled = if s.calculatesRecall then [recallAtK, recallAtR s.r] else [] := by
  cases hon : s.calculatesRecall with
  | false =>
    rw [s.recalls_without_neighbors trials (equipped.trans hon)] at h
    cases h
    rfl
  | true =>
    obtain ⟨atK, atR, rfl⟩ := s.recalls_with_neighbors trials (equipped.trans hon) recalled h
    rfl

theorem action_names {s : QueryStep (StateM ω) δ} (equipped : s.Equipped) {w : ω}
    {measures : Measures} (h : (s.action.run w).1.1 = .ok measures) :
    (Keyed.keys measures).Perm s.declared := by
  obtain ⟨trials, recalled, hrecalled, rfl⟩ := action_ok h
  have hkeys := keys_recalled equipped hrecalled
  unfold Keyed.keys at hkeys ⊢
  rw [List.map_append, hkeys, declared]
  refine List.Perm.append_right _ ?_
  -- The series come in another order than they are declared in.
  exact (List.Perm.swap "memory_kb" "client_time" []).cons "took"

end QueryStep

/-! ## What a call answers -/

/-- No measure is missed. If the call succeeds, the measures are those that are declared. -/
structure StepKind.Whole (declared : List String) (answer : Except StepError StepResult) : Prop where
  names : ∀ result, answer = .ok result → (Keyed.keys result.measures).Perm declared
  missesNone : ∀ label measure, answer ≠ .error (.missingMeasure label measure)

open StepKind (Whole)

theorem StepKind.Whole.error (declared : List String) {e : StepError}
    (h : ∀ label measure, e ≠ .missingMeasure label measure) : Whole declared (.error e) := by
  refine ⟨fun _ hresult => ?_, fun label measure hmissing => ?_⟩
  · cases hresult
  · exact h label measure (Except.error.inj hmissing)

theorem StepError.AtWork.ne_missingMeasure {allowed : DatasetError → Prop} {e : StepError}
    (h : e.AtWork allowed) (label measure : String) : e ≠ .missingMeasure label measure := by
  cases h with
  | transport trial fault => simp
  | degenerateRecall => simp
  | noRoom entries => simp
  | ofDataset e h => cases e <;> simp [StepError.ofDataset]

variable {ω δ : Type} [Dataset δ]

theorem Serves.unrestricted {α : Type} (convert : Rows → Except DatasetError α) :
    Serves (δ := δ) convert (fun _ => True) (fun _ => True) where
  read _ _ := ⟨fun _ _ => trivial, trivial⟩
  reset _ _ := ⟨fun _ _ => trivial, trivial⟩
  take _ _ _ _ := fun _ _ => trivial

theorem QueryStep.action_ne_missingMeasure (s : QueryStep (StateM ω) δ) (w : ω)
    (label measure : String) : (s.action.run w).1.1 ≠ .error (.missingMeasure label measure) := by
  intro h
  have hcontained := s.action_contained (.unrestricted _) (.unrestricted _)
    ⟨trivial, fun _ _ => trivial⟩ w
  exact (hcontained.fails _ h).ne_missingMeasure label measure rfl

namespace Step

theorem execute_whole (step : Step (QueryStep (StateM ω) δ)) (equipped : step.body.Equipped)
    (w : ω) :
    Whole step.body.declared ((step.execute (m := StateM ω)).run w).1.1 ∧
      step.body.Keeps ((step.execute (m := StateM ω)).run w).1.2.body := by
  rw [execute_eq]
  cases hadvance : step.status.advance .running with
  | error e =>
    refine ⟨.error _ fun label measure => ?_, .refl _⟩
    rintro rfl
    unfold Status.advance at hadvance
    split at hadvance <;> cases hadvance
  | ok status =>
    have hkeeps : step.body.Keeps (StepKind.action (m := StateM ω) step.body w).1.2 :=
      step.body.action_keeps w
    have hmissing : ∀ label measure,
        (StepKind.action (m := StateM ω) step.body w).1.1 ≠ .error (.missingMeasure label measure) :=
      step.body.action_ne_missingMeasure w
    have hnames : ∀ measures, (StepKind.action (m := StateM ω) step.body w).1.1 = .ok measures →
        (Keyed.keys measures).Perm step.body.declared := fun _ h => QueryStep.action_names equipped h
    simp only [StateT.run, state_bind]
    generalize StepKind.action (m := StateM ω) step.body w = acted at hkeeps hmissing hnames ⊢
    rcases acted with ⟨⟨e | measures, left⟩, after⟩
    · exact ⟨.error _ fun label measure h => hmissing label measure (congrArg _ h), hkeeps⟩
    · have hperm := hnames measures rfl
      have hdeclared : StepKind.declared (StateM ω) left = step.body.declared := hkeeps.declared_eq
      have hchecked : checkMeasures (StepKind.label (StateM ω) left)
          (StepKind.declared (StateM ω) left) measures = .ok measures := by
        rw [checkMeasures_eq_ok_iff, hdeclared]
        exact ⟨rfl, fun name h => hperm.mem_iff.mpr h⟩
      simp only [Except.bind, hchecked]
      refine ⟨⟨fun result h => ?_, nofun⟩, hkeeps⟩
      cases h
      exact hperm

theorem executeTimes_whole (n : Nat) (step : Step (QueryStep (StateM ω) δ))
    (equipped : step.body.Equipped) (w : ω) :
    ∀ answer ∈ ((executeTimes (m := StateM ω) n step).run w).1.1,
      Whole step.body.declared answer := by
  induction n generalizing step w with
  | zero => nofun
  | succ n ih =>
    obtain ⟨hwhole, hkeeps⟩ := execute_whole step equipped w
    unfold executeTimes
    simp only [StateT.run, state_bind] at hwhole hkeeps ih ⊢
    have hlater := ih (step.execute (m := StateM ω) w).1.2 (hkeeps.equipped equipped)
      (step.execute (m := StateM ω) w).2
    rw [hkeeps.declared_eq] at hlater
    intro answer hanswer
    rcases List.mem_cons.mp hanswer with rfl | hanswer
    · exact hwhole
    · exact hlater answer hanswer

end Step

/-! ## Built steps -/

namespace QueryStep

structure Configured (config : StepConfig) (s : QueryStep (StateM ω) δ) : Prop where
  k : 1 ≤ s.k
  r : 1 ≤ s.r
  timeout : 1 ≤ s.connection.timeout
  queryCount_le : s.queryCount ≤ Dataset.size s.queries
  requested : ∀ count, config.int "query_count" none = .ok count →
    0 ≤ count ∧ s.queryCount = min count.toNat (Dataset.size s.queries)
  silent : config.lookup "query_count" = none → Dataset.size s.queries ≤ 2 ^ 63 - 1 →
    s.queryCount = Dataset.size s.queries
  calculatesRecall : config.bool "calculate_recall" (some false) = .ok s.calculatesRecall
  neighbors : s.neighbors.isSome = true ↔ s.calculatesRecall = true

theorem Built.equipped {services : Services (StateM ω) δ} {config : StepConfig}
    {p : QueryParameters} {s : QueryStep (StateM ω) δ} (built : Built services config p s) :
    s.Equipped := by
  rw [Equipped, built.neighbors, built.calculatesRecall]

theorem Built.configured {services : Services (StateM ω) δ} {config : StepConfig}
    {p : QueryParameters} {s : QueryStep (StateM ω) δ} (built : Built services config p s) :
    Configured config s where
  k := by
    rw [built.k]
    exact ((StepConfig.positive_eq_ok _ _ _ _).mp built.resolved.k).1
  r := by
    rw [built.r]
    exact ((StepConfig.positive_eq_ok _ _ _ _).mp built.resolved.r).1
  timeout := by
    rw [built.connection]
    exact ((StepConfig.positive_eq_ok _ _ _ _).mp built.resolved.timeout).1
  queryCount_le := QueryParameters.queryCount_le config _ _ built.queryCount
  requested _ h := QueryParameters.queryCount_of_requested built.queryCount h
  silent hsilent hsize := QueryParameters.queryCount_of_silent built.queryCount hsilent hsize
  calculatesRecall := by
    rw [built.calculatesRecall]
    exact built.resolved.calculateRecall
  neighbors := by rw [built.equipped]

/-- A step that was built declares each measure once, whatever `r` is. Whatever its datasets, its
client and the outside do, and in whatever state it is, a run that succeeds makes each declared
measure once and no other, and no call of the step misses one. -/
theorem built_step_makes_what_it_declares (services : Services (StateM ω) δ) (config : StepConfig)
    (s : QueryStep (StateM ω) δ) (before after : ω)
    (built : ofConfig services config before = (.ok s, after)) :
    Configured config s ∧ s.declared.Nodup ∧
      (∀ r : Nat, ["took", "memory_kb", "client_time", "recall@K", s!"recall@{r}"].Nodup) ∧
      (∀ (t : QueryStep (StateM ω) δ) (w : ω), s.Keeps t →
        let ran := t.action.run w
        s.Keeps ran.1.2 ∧ ∀ measures, ran.1.1 = .ok measures →
          (Keyed.keys measures).Perm s.declared ∧ (Keyed.keys measures).Nodup) ∧
      ∀ (n : Nat) (w : ω),
        ∀ answer ∈ ((Step.executeTimes (m := StateM ω) n ⟨s, .initialized⟩).run w).1.1,
          (∀ result, answer = .ok result → (Keyed.keys result.measures).Perm s.declared) ∧
          ∀ label measure, answer ≠ .error (.missingMeasure label measure) := by
  obtain ⟨p, hbuilt⟩ := built_of_ofConfig services config s before after built
  refine ⟨hbuilt.configured, s.declared_nodup, names_nodup, fun t w hkeeps => ?_, fun n w => ?_⟩
  · refine ⟨hkeeps.trans (t.action_keeps w), fun measures h => ?_⟩
    have hperm := action_names (hkeeps.equipped hbuilt.equipped) h
    rw [hkeeps.declared_eq] at hperm
    exact ⟨hperm, hperm.nodup_iff.mpr s.declared_nodup⟩
  · intro answer hanswer
    obtain ⟨hnames, hmissing⟩ :=
      Step.executeTimes_whole n ⟨s, .initialized⟩ hbuilt.equipped w answer hanswer
    exact ⟨hnames, hmissing⟩

/-- All five measures of a step that calculates recall, and its second call is refused. -/
theorem paired_makes_five_measures :
    ∃ s after result refused, ofConfig paired scoredQueries 0 = (.ok s, after) ∧
      ((Step.executeTimes (m := StateM Nat) 2 ⟨s, .initialized⟩).run 0).1.1 = [.ok result, refused] ∧
      (Keyed.keys result.measures).Perm
        ["took", "memory_kb", "client_time", "recall@K", "recall@1"] ∧
      ∀ label measure, refused ≠ .error (.missingMeasure label measure) := by
  obtain ⟨s, after, result, refused, built, hdeclared, hanswers⟩ : ∃ s after result refused,
      ofConfig paired scoredQueries 0 = (.ok s, after) ∧
      s.declared = ["took", "memory_kb", "client_time", "recall@K", "recall@1"] ∧
      ((Step.executeTimes (m := StateM Nat) 2 ⟨s, .initialized⟩).run 0).1.1 =
        [.ok result, refused] :=
    ⟨_, _, _, _, rfl, rfl, rfl⟩
  obtain ⟨-, -, -, -, hcalls⟩ :=
    built_step_makes_what_it_declares paired scoredQueries s 0 after built
  have hall := hcalls 2 0
  rw [hanswers, hdeclared] at hall
  refine ⟨s, after, result, refused, built, hanswers, ?_, ?_⟩
  · exact (hall (.ok result) (by simp)).1 result rfl
  · exact (hall refused (by simp)).2

end QueryStep

end NeighborBench
