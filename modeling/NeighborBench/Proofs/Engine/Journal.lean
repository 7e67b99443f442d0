import NeighborBench.Proofs.Engine.SideBySide

/-! # What is done to steps

A journal keeps the outside in a state of any kind. It notes each constructor that is called and
each action that is run, with its answer, in the order in which they are done. A step has the number
of the call that built it. Of a step that was built, the status that it was handed over in is noted.
-/

namespace NeighborBench

inductive StepEvent where
  | constructed (number : Nat) (config : StepConfig) (answer : Except StepError Status)
  | ran (number : Nat) (answer : Except StepError StepResult)

structure Journal (ω : Type) where
  outside : ω
  /-- Constructors that were called so far. -/
  calls : Nat := 0
  events : List StepEvent := []

structure Numbered (σ : Type) where
  number : Nat
  body : σ

/-- What a step answers whose action ended in this way. -/
def StepKind.answer (m : Type → Type) {σ : Type} [StepKind m σ]
    (outcome : Except StepError Measures) (body : σ) : Except StepError StepResult :=
  let label := StepKind.label m body
  (outcome.bind (checkMeasures label (StepKind.declared m body))).map (⟨label, ·⟩)

/-! ## Noting -/

section

variable {ω σ : Type}

def Journal.unnoted {α : Type} (act : StateM ω α) : StateM (Journal ω) α := fun j =>
  let (answer, outside) := act j.outside
  (answer, { j with outside })

def Constructor.noted (construct : Constructor (StateM ω) σ) :
    Constructor (StateM (Journal ω)) (Numbered σ) := fun config j =>
  let (built, outside) := construct config j.outside
  (built.map fun step => ⟨⟨j.calls, step.body⟩, step.status⟩,
    ⟨outside, j.calls + 1, j.events ++ [.constructed j.calls config (built.map (·.status))]⟩)

/-- The same kinds, with each call of a constructor and each action noted. -/
def Registry.noted (r : Registry (StateM ω) σ) : Registry (StateM (Journal ω)) (Numbered σ) :=
  ⟨r.kinds.map fun (label, construct) => (label, construct.noted)⟩

instance [StepKind (StateM ω) σ] : StepKind (StateM (Journal ω)) (Numbered σ) where
  label s := StepKind.label (StateM ω) s.body
  declared s := StepKind.declared (StateM ω) s.body
  action s := fun j =>
    let ((outcome, body), outside) := StepKind.action (m := StateM ω) s.body j.outside
    ((outcome, ⟨s.number, body⟩), ⟨outside, j.calls,
      j.events ++ [.ran s.number (StepKind.answer (StateM ω) outcome body)]⟩)

/-! ## Noting changes nothing -/

/-- The journal of a run beside its outside alone. -/
def Journal.Over (j : Journal ω) (w : ω) : Prop := j.outside = w

def Numbered.Of (n : Numbered σ) (body : σ) : Prop := n.body = body

theorem noted_kinds_match [StepKind (StateM ω) σ] :
    KindsMatch (ω := Journal ω) (τ := ω) (σ := Numbered σ) (ρ := σ) Journal.Over Numbered.Of
      Eq := by
  constructor
  · rintro n body rfl
    rfl
  · rintro n body rfl
    rfl
  · rintro n body rfl j w rfl
    refine ⟨⟨?_, rfl⟩, rfl⟩
    change AlikeOutcome Eq (StepKind.action (m := StateM ω) n.body j.outside).1.1 _
    cases (StepKind.action (m := StateM ω) n.body j.outside).1.1 with
    | error e => exact .error e
    | ok measures => exact .ok _ _ rfl
  · rintro measures _ rfl name
    rfl

theorem StepResult.eq_of_same {r q : StepResult} (h : StepResult.Same Eq r q) : r = q := by
  obtain ⟨label, measures⟩ := r
  obtain ⟨hlabel, hmeasures⟩ := h
  cases hlabel
  cases hmeasures
  rfl

theorem StepResult.all_eq_of_same {results others : List StepResult}
    (h : List.Forall₂ (StepResult.Same Eq) results others) : results = others := by
  rw [← List.forall₂_eq_eq_eq]
  exact h.imp fun _ _ => eq_of_same

namespace Registry

theorem noted_contains (r : Registry (StateM ω) σ) (label : String) :
    r.noted.contains label = r.contains label := by
  unfold contains noted
  rw [Keyed.get?_map fun _ => Constructor.noted, Option.isSome_map]

theorem noted_create_alike (r : Registry (StateM ω) σ) (configs : List StepConfig) :
    CreateAlike Journal.Over Numbered.Of r.noted r configs := by
  rintro config - j w rfl
  unfold create noted
  rw [Keyed.get?_map fun _ => Constructor.noted]
  cases Keyed.get? config.stepName r.kinds with
  | none => exact ⟨.error _, rfl⟩
  | some construct =>
    simp only [Option.map_some, Constructor.noted]
    rcases construct config j.outside with ⟨built, outside⟩
    refine ⟨?_, rfl⟩
    cases built with
    | error e => exact .error e
    | ok step => exact .ok _ _ ⟨rfl, rfl⟩

end Registry

end

end NeighborBench
