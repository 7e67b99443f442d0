import NeighborBench.Plan.Run
import NeighborBench.Proofs.Success
import Mathlib.Data.List.Forall2

/-! # Two runs side by side

The same list is run over two outsides, of which one need not be like the other in every way. If
each step is built alike and acts alike in both, the whole runs end alike.
-/

namespace NeighborBench

/-! ## Computations -/

/-- From outsides that match, the answers are alike and the outsides match again. -/
def Alongside {ω τ α β : Type} (matched : ω → τ → Prop) (alike : α → β → Prop) (x : StateM ω α)
    (y : StateM τ β) : Prop :=
  ∀ w t, matched w t → alike (x w).1 (y t).1 ∧ matched (x w).2 (y t).2

/-- Both fail with one error, or both succeed with answers that are alike. -/
inductive AlikeOutcome {ε α β : Type} (alike : α → β → Prop) : Except ε α → Except ε β → Prop where
  | error (e : ε) : AlikeOutcome alike (.error e) (.error e)
  | ok (a : α) (b : β) (h : alike a b) : AlikeOutcome alike (.ok a) (.ok b)

section

variable {ω τ ε α β γ δ : Type} {matched : ω → τ → Prop} {alike : α → β → Prop}
  {also : γ → δ → Prop}

theorem Alongside.pure {a : α} {b : β} (h : alike a b) :
    Alongside matched alike (pure a) (pure b) := by
  intro w t hmatched
  exact ⟨h, hmatched⟩

theorem Alongside.bind {x : StateM ω α} {y : StateM τ β} {f : α → StateM ω γ} {g : β → StateM τ δ}
    (h : Alongside matched alike x y)
    (next : ∀ a b, alike a b → Alongside matched also (f a) (g b)) :
    Alongside matched also (x >>= f) (y >>= g) := by
  intro w t hmatched
  obtain ⟨halike, hbetween⟩ := h w t hmatched
  exact next _ _ halike _ _ hbetween

theorem AlikeOutcome.map {x : Except ε α} {y : Except ε β} {f : α → γ} {g : β → δ}
    (h : AlikeOutcome alike x y) (next : ∀ a b, alike a b → also (f a) (g b)) :
    AlikeOutcome also (x.map f) (y.map g) := by
  cases h with
  | error e => exact .error e
  | ok a b hab => exact .ok _ _ (next a b hab)

theorem AlikeOutcome.eq {alike : α → α → Prop} {x y : Except ε α} (h : AlikeOutcome alike x y)
    (same : ∀ a b, alike a b → a = b) : x = y := by
  cases h with
  | error e => rfl
  | ok a b hab => rw [same a b hab]

end

/-! ## Steps -/

section

variable {ω τ σ ρ : Type}

structure Step.Like (like : σ → ρ → Prop) (s : Step σ) (t : Step ρ) : Prop where
  body : like s.body t.body
  status : s.status = t.status

structure StepResult.Same (same : Measures → Measures → Prop) (r q : StepResult) : Prop where
  label : r.label = q.label
  measures : same r.measures q.measures

variable [StepKind (StateM ω) σ] [StepKind (StateM τ) ρ]

/-- Bodies that are alike act alike, and stay alike. -/
structure KindsMatch (matched : ω → τ → Prop) (like : σ → ρ → Prop)
    (same : Measures → Measures → Prop) : Prop where
  label : ∀ s t, like s t → StepKind.label (StateM ω) s = StepKind.label (StateM τ) t
  declared : ∀ s t, like s t → StepKind.declared (StateM ω) s = StepKind.declared (StateM τ) t
  action : ∀ s t, like s t →
    Alongside matched (fun x y => AlikeOutcome same x.1 y.1 ∧ like x.2 y.2)
      (StepKind.action (m := StateM ω) s) (StepKind.action (m := StateM τ) t)
  names : ∀ m n, same m n → ∀ name, (Keyed.get? name m).isNone = (Keyed.get? name n).isNone

variable {matched : ω → τ → Prop} {like : σ → ρ → Prop} {same : Measures → Measures → Prop}

theorem checkMeasures_alike {m n : Measures} (label : String) (declared : List String)
    (hsame : same m n) (names : ∀ name, (Keyed.get? name m).isNone = (Keyed.get? name n).isNone) :
    AlikeOutcome same (checkMeasures label declared m) (checkMeasures label declared n) := by
  unfold checkMeasures
  simp only [names]
  split
  · exact .error _
  · exact .ok m n hsame

theorem Step.execute_alongside (kinds : KindsMatch matched like same) {s : Step σ} {t : Step ρ}
    (h : s.Like like t) :
    Alongside matched (fun x y => AlikeOutcome (StepResult.Same same) x.1 y.1 ∧ x.2.Like like y.2)
      (s.execute (m := StateM ω)) (t.execute (m := StateM τ)) := by
  rw [Step.execute_eq, Step.execute_eq, h.status]
  -- The statuses agree, so both are refused or both act.
  split
  · exact .pure ⟨.error _, h⟩
  · refine (kinds.action _ _ h.body).bind ?_
    rintro ⟨x, s'⟩ ⟨y, t'⟩ ⟨hxy, hlike⟩
    simp only
    rw [kinds.label _ _ hlike, kinds.declared _ _ hlike]
    generalize StepKind.label (StateM τ) t' = label
    generalize StepKind.declared (StateM τ) t' = declared
    have hchecked : AlikeOutcome same (x.bind (checkMeasures label declared))
        (y.bind (checkMeasures label declared)) := by
      cases hxy with
      | error e => exact .error e
      | ok m n hsame => exact checkMeasures_alike label declared hsame (kinds.names m n hsame)
    revert hchecked
    generalize x.bind (checkMeasures label declared) = a
    generalize y.bind (checkMeasures label declared) = b
    intro hchecked
    cases hchecked with
    | error e => exact .pure ⟨.error e, hlike, rfl⟩
    | ok m n hsame => exact .pure ⟨.ok _ _ ⟨rfl, hsame⟩, hlike, rfl⟩

end

/-! ## Lists of steps -/

namespace Registry

section

variable {ω σ : Type} [StepKind (StateM ω) σ]

theorem runTimes_succ (r : Registry (StateM ω) σ) (configs : List StepConfig) (n : Nat) (w : ω) :
    r.runTimes configs (n + 1) w =
      match r.run configs w with
      | ((.error e, left), between) => ((.error e, left), between)
      | ((.ok results, left), between) =>
        let rest := r.runTimes configs n between
        ((rest.1.1.map (results :: ·), left ++ rest.1.2), rest.2) := by
  conv_lhs => unfold runTimes
  rw [state_bind]
  rcases r.run configs w with ⟨⟨_ | results, left⟩, between⟩
  · rfl
  · rfl

theorem runPlan_eq (r : Registry (StateM ω) σ) (setup steps : List StepConfig) (n : Nat) (w : ω) :
    r.runPlan setup steps n w =
      match r.run setup w with
      | ((.error e, left), between) => ((.error e, left), between)
      | ((.ok _, left), between) =>
        if roomFor runBytes < n then ((.error (.noRoom n), left), between)
        else
          let rest := r.runTimes steps n between
          ((rest.1.1, left ++ rest.1.2), rest.2) := by
  unfold runPlan
  rw [state_bind]
  rcases r.run setup w with ⟨⟨_ | results, left⟩, between⟩
  · rfl
  · simp only
    split <;> rfl

end

variable {ω τ σ ρ : Type} {matched : ω → τ → Prop} {like : σ → ρ → Prop}

/-- Both registries build each configuration of a list alike. -/
def CreateAlike (matched : ω → τ → Prop) (like : σ → ρ → Prop) (r : Registry (StateM ω) σ)
    (q : Registry (StateM τ) ρ) (configs : List StepConfig) : Prop :=
  ∀ config ∈ configs,
    Alongside matched (AlikeOutcome (Step.Like like)) (r.create config) (q.create config)

theorem build_alongside {r : Registry (StateM ω) σ} {q : Registry (StateM τ) ρ}
    {configs : List StepConfig} (creates : CreateAlike matched like r q configs) :
    Alongside matched (AlikeOutcome (List.Forall₂ (Step.Like like))) (r.build configs)
      (q.build configs) := by
  induction configs with
  | nil => exact .pure (.ok _ _ .nil)
  | cons config rest ih =>
    unfold build
    refine (creates config (List.mem_cons_self ..)).bind ?_
    intro x y hxy
    cases hxy with
    | error e => exact .pure (.error e)
    | ok s t hst =>
      refine (ih fun other hmem => creates other (List.mem_cons_of_mem _ hmem)).bind ?_
      intro x y hxy
      exact .pure (hxy.map fun _ _ hrest => .cons hst hrest)

variable [StepKind (StateM ω) σ] [StepKind (StateM τ) ρ] {same : Measures → Measures → Prop}

theorem runSteps_alongside (kinds : KindsMatch matched like same) {steps : List (Step σ)}
    {others : List (Step ρ)} (h : List.Forall₂ (Step.Like like) steps others) :
    Alongside matched
      (fun x y => AlikeOutcome (List.Forall₂ (StepResult.Same same)) x.1 y.1 ∧
        List.Forall₂ (Step.Like like) x.2 y.2)
      (runSteps (m := StateM ω) steps) (runSteps (m := StateM τ) others) := by
  induction h with
  | nil => exact .pure ⟨.ok _ _ .nil, .nil⟩
  | cons hstep hrest ih =>
    unfold runSteps
    refine (Step.execute_alongside kinds hstep).bind ?_
    rintro ⟨x, s⟩ ⟨y, t⟩ ⟨hxy, hleft⟩
    cases hxy with
    | error e =>
      -- The steps behind it are left as they were.
      exact .pure ⟨.error e, .cons hleft hrest⟩
    | ok r q hsame =>
      refine ih.bind ?_
      rintro ⟨x, left⟩ ⟨y, more⟩ ⟨hxy, hmore⟩
      exact .pure ⟨hxy.map fun _ _ htail => .cons hsame htail, .cons hleft hmore⟩

variable {r : Registry (StateM ω) σ} {q : Registry (StateM τ) ρ}

theorem run_alongside (kinds : KindsMatch matched like same) {configs : List StepConfig}
    (creates : CreateAlike matched like r q configs) :
    Alongside matched
      (fun x y => AlikeOutcome (List.Forall₂ (StepResult.Same same)) x.1 y.1 ∧
        List.Forall₂ (Step.Like like) x.2 y.2)
      (r.run configs) (q.run configs) := by
  unfold run
  refine (build_alongside creates).bind ?_
  intro x y hxy
  cases hxy with
  | error e => exact .pure ⟨.error e, .nil⟩
  | ok steps others hsteps => exact runSteps_alongside kinds hsteps

theorem runTimes_alongside (kinds : KindsMatch matched like same) {configs : List StepConfig}
    (creates : CreateAlike matched like r q configs) (n : Nat) :
    Alongside matched
      (fun x y => AlikeOutcome (List.Forall₂ (List.Forall₂ (StepResult.Same same))) x.1 y.1 ∧
        List.Forall₂ (Step.Like like) x.2 y.2)
      (r.runTimes configs n) (q.runTimes configs n) := by
  induction n with
  | zero => exact .pure ⟨.ok _ _ .nil, .nil⟩
  | succ n ih =>
    unfold runTimes
    refine (run_alongside kinds creates).bind ?_
    rintro ⟨x, left⟩ ⟨y, other⟩ ⟨hxy, hleft⟩
    cases hxy with
    | error e => exact .pure ⟨.error e, hleft⟩
    | ok results others hsame =>
      refine ih.bind ?_
      rintro ⟨x, more⟩ ⟨y, rest⟩ ⟨hxy, hmore⟩
      exact .pure ⟨hxy.map fun _ _ hrest => .cons hsame hrest, List.rel_append hleft hmore⟩

theorem runPlan_alongside (kinds : KindsMatch matched like same) {setup steps : List StepConfig}
    (before : CreateAlike matched like r q setup) (creates : CreateAlike matched like r q steps)
    (n : Nat) :
    Alongside matched
      (fun x y => AlikeOutcome (List.Forall₂ (List.Forall₂ (StepResult.Same same))) x.1 y.1 ∧
        List.Forall₂ (Step.Like like) x.2 y.2)
      (r.runPlan setup steps n) (q.runPlan setup steps n) := by
  unfold runPlan
  refine (run_alongside kinds before).bind ?_
  rintro ⟨x, left⟩ ⟨y, other⟩ ⟨hxy, hleft⟩
  cases hxy with
  | error e => exact .pure ⟨.error e, hleft⟩
  | ok results others hsame =>
    simp only
    split
    · exact .pure ⟨.error _, hleft⟩
    · refine (runTimes_alongside kinds creates n).bind ?_
      rintro ⟨x, more⟩ ⟨y, rest⟩ ⟨hxy, hmore⟩
      exact .pure ⟨hxy, List.rel_append hleft hmore⟩

end Registry

end NeighborBench
